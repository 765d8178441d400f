import TokenEndpoint.Proofs.LoweredTexts
import TokenEndpoint.Proofs.Pieces
import TokenEndpoint.Url.Basic
/-!
Lowered network locations. A network location that may stand in a URL may stand there lowered too: the
brackets still enclose an address, and no character hides a delimiter. An address is of ASCII characters,
and is one or none whatever the case of its letters; only its scope may hold others. Main statements:

* `checkBrackets_of_loweredTo` -- the brackets of a lowered network location are as good as before;
* `NetlocFits.lowered` -- what fits as a network location still fits when it is lowered.
-/

namespace TokenEndpoint

namespace Url

open Text (IsMark LoweredTo)

/-! ## 1. Addresses in small letters -/

/-- The text in small letters, as far as it is ASCII. -/
abbrev small (s : List Char) : List Char :=
  s.map Char.toLower

theorem toLower_eq_iff {d : Char} (hd : IsMark d) (c : Char) : c.toLower = d ↔ c = d := by
  constructor
  · exact hd.eq_of_toLower
  · rintro rfl
    exact hd.2

theorem isHexDigit_toLower (c : Char) : isHexDigit c.toLower = isHexDigit c :=
  Text.forall_toLower (P := fun c small => isHexDigit small = isHexDigit c) (fun _ => rfl)
    (by decide +kernel) c

theorem isDigit_toLower (c : Char) : c.toLower.isDigit = c.isDigit :=
  Text.forall_toLower (P := fun c small => small.isDigit = c.isDigit) (fun _ => rfl)
    (by decide +kernel) c

theorem toLower_of_isDigit (c : Char) : c.isDigit = true → c.toLower = c :=
  Text.forall_toLower (P := fun c small => c.isDigit = true → small = c) (fun _ _ => rfl)
    (by decide +kernel) c

theorem all_small {p : Char → Bool} (hp : ∀ c, p c.toLower = p c) (s : List Char) :
    (small s).all p = s.all p := by
  rw [List.all_map, show p ∘ Char.toLower = p from funext hp]

theorem isOctet_small (s : List Char) : isOctet (small s) = isOctet s := by
  by_cases hdigits : s.all Char.isDigit = true
  · have hsame : small s = s := by
      conv_rhs => rw [← List.map_id s]
      exact List.map_congr_left fun c hc => toLower_of_isDigit c (List.all_eq_true.mp hdigits c hc)
    rw [hsame]
  · have hsmall : ¬ (small s).all Char.isDigit = true := by rwa [all_small isDigit_toLower]
    rw [isOctet, isOctet]
    simp [hdigits, hsmall]

theorem isIPv4_small (s : List Char) : isIPv4 (small s) = isIPv4 s := by
  rw [isIPv4, isIPv4, Text.splitOn_map (toLower_eq_iff (by decide)), List.length_map, List.all_map]
  congr 2
  exact funext isOctet_small

theorem isGroup_small (s : List Char) : isGroup (small s) = isGroup s := by
  rw [isGroup, isGroup, all_small isHexDigit_toLower, List.length_map]

theorem contains_small {d : Char} (hd : IsMark d) (s : List Char) :
    (small s).contains d = s.contains d := by
  rw [Bool.eq_iff_iff, List.contains_iff_mem, List.contains_iff_mem, List.mem_map]
  constructor
  · rintro ⟨c, hc, heq⟩
    rwa [← hd.eq_of_toLower heq]
  · exact fun hmem => ⟨d, hmem, hd.2⟩

theorem withoutOctets_small (groups : List (List Char)) :
    withoutOctets (groups.map small) = (withoutOctets groups).map (List.map small) := by
  rw [withoutOctets, withoutOctets, List.getLast?_map]
  cases groups.getLast? with
  | none => rfl
  | some last =>
    dsimp only [Option.map_some]
    rw [contains_small (by decide), isIPv4_small]
    split
    · split
      · rw [Option.map_some, List.map_append, ← List.map_dropLast]
        rfl
      · rfl
    · rfl

theorem innerGaps_small (groups : List (List Char)) :
    innerGaps (groups.map small) = innerGaps groups := by
  rw [innerGaps, innerGaps, List.length_map]
  refine List.filter_congr fun i _ => ?_
  rw [List.getElem?_map]
  cases groups[i]? with
  | none => rfl
  | some group => simp

theorem groupsFit_small (groups : List (List Char)) :
    groupsFit (groups.map small) = groupsFit groups := by
  have hend (group? : Option (List Char)) :
      ((group?.map small).getD []).isEmpty = (group?.getD []).isEmpty := by
    cases group? <;> simp
  have hall (groups : List (List Char)) : (groups.map small).all isGroup = groups.all isGroup := by
    rw [List.all_map]
    congr 1
    exact funext isGroup_small
  have hcount (groups : List (List Char)) :
      (groups.map small).countP (fun g => !g.isEmpty) = groups.countP fun g => !g.isEmpty := by
    rw [List.countP_map]
    congr 1
    exact funext fun g => by simp
  rw [groupsFit, groupsFit]
  dsimp only
  rw [innerGaps_small, List.head?_map, List.getLast?_map, hend, hend, List.length_map, hall]
  split
  · rfl
  · rw [← List.map_take, ← List.map_drop, ← List.map_append, hall, hcount, List.length_map,
      List.length_map]
  · rfl

/-! ## 2. The characters of an address -/

def isAddressChar (c : Char) : Bool :=
  isHexDigit c || c == ':' || c == '.'

theorem toNat_lt_of_isHexDigit {c : Char} (h : isHexDigit c = true) : c.toNat < 0x80 := by
  have hbelow {d : Char} (hascii : d.toNat < 0x80) (hle : c ≤ d) : c.toNat < 0x80 :=
    Nat.lt_of_le_of_lt (UInt32.le_iff_toNat_le.mp hle) hascii
  simp only [isHexDigit, Bool.or_eq_true, Bool.and_eq_true, decide_eq_true_eq] at h
  rcases h with (hdigit | hletter) | hletter
  · have hnine : c ≤ '9' := of_decide_eq_true (Bool.and_eq_true_iff.mp hdigit).2
    exact hbelow (by decide) hnine
  · exact hbelow (by decide) hletter.2
  · exact hbelow (by decide) hletter.2

theorem toNat_lt_of_isAddressChar {c : Char} (h : isAddressChar c = true) : c.toNat < 0x80 := by
  simp only [isAddressChar, Bool.or_eq_true, beq_iff_eq] at h
  rcases h with (hhex | rfl) | rfl
  · exact toNat_lt_of_isHexDigit hhex
  · decide
  · decide

theorem isDigit_or_dot_of_isIPv4 {s : List Char} (h : isIPv4 s = true) {c : Char} (hc : c ∈ s) :
    c.isDigit = true ∨ c = '.' := by
  by_cases hdot : c = '.'
  · exact .inr hdot
  · obtain ⟨octet, hoctet, hmem⟩ := Text.exists_mem_splitOn_iff.mpr ⟨hc, hdot⟩
    rw [isIPv4, Bool.and_eq_true] at h
    have hfits := List.all_eq_true.mp h.2 octet hoctet
    simp only [isOctet, Bool.and_eq_true] at hfits
    exact .inl (List.all_eq_true.mp hfits.1.1.1.2 c hmem)

/-- In groups that fit, the gap is a group as well. -/
theorem isGroup_of_groupsFit {groups : List (List Char)} (h : groupsFit groups = true)
    {group : List Char} (hgroup : group ∈ groups) : isGroup group = true := by
  rw [groupsFit] at h
  dsimp only at h
  split at h
  · rw [Bool.and_eq_true] at h
    exact List.all_eq_true.mp h.2 group hgroup
  · next gap hgap =>
    have hmem : gap ∈ innerGaps groups := by rw [hgap]; exact List.mem_singleton_self gap
    have hinner := (List.mem_filter.mp hmem).2
    simp only [Bool.and_eq_true, decide_eq_true_eq] at hinner
    obtain ⟨⟨-, hlast⟩, hempty⟩ := hinner
    have hlt : gap < groups.length := by omega
    have hsplit : groups = groups.take gap ++ groups[gap] :: groups.drop (gap + 1) := by
      rw [← List.drop_eq_getElem_cons hlt, List.take_append_drop]
    rw [Bool.and_eq_true] at h
    rw [hsplit] at hgroup
    rcases List.mem_append.mp hgroup with hleft | hright
    · exact List.all_eq_true.mp h.2 group (List.mem_append_left _ hleft)
    · rcases List.mem_cons.mp hright with rfl | hright
      · rw [List.getElem?_eq_getElem hlt, Option.getD_some, List.isEmpty_iff] at hempty
        rw [hempty]
        rfl
      · exact List.all_eq_true.mp h.2 group (List.mem_append_right _ hright)
  · cases h

theorem mem_or_isIPv4_of_withoutOctets {groups rest : List (List Char)}
    (h : withoutOctets groups = some rest) {group : List Char} (hgroup : group ∈ groups) :
    group ∈ rest ∨ isIPv4 group = true := by
  rw [withoutOctets] at h
  split at h
  · next last hlast =>
    split at h
    · split at h
      · next hoctets =>
        cases h
        obtain ⟨front, rfl⟩ := List.getLast?_eq_some_iff.mp hlast
        rw [List.dropLast_concat]
        rcases List.mem_append.mp hgroup with hfront | hend
        · exact .inl (List.mem_append_left _ hfront)
        · rw [List.mem_singleton.mp hend]
          exact .inr hoctets
      · cases h
    · cases h
      exact .inl hgroup
  · cases h
    exact .inl hgroup

/-- An IPv6 address without a scope. -/
def isAddress (s : List Char) : Bool :=
  let groups := Text.splitOn ':' s
  3 ≤ groups.length &&
    match withoutOctets groups with
    | some groups => groups.length ≤ 9 && groupsFit groups
    | none => false

theorem isAddress_small (s : List Char) : isAddress (small s) = isAddress s := by
  rw [isAddress, isAddress, Text.splitOn_map (toLower_eq_iff (by decide)), List.length_map,
    withoutOctets_small]
  cases withoutOctets (Text.splitOn ':' s) with
  | none => rfl
  | some groups =>
    dsimp only [Option.map_some]
    rw [List.length_map, groupsFit_small]

theorem isAddressChar_of_isAddress {s : List Char} (h : isAddress s = true) {c : Char} (hc : c ∈ s) :
    isAddressChar c = true := by
  rw [isAddress, Bool.and_eq_true] at h
  have hfits := h.2
  split at hfits
  · next groups hgroups =>
    rw [Bool.and_eq_true] at hfits
    by_cases hcolon : c = ':'
    · rw [hcolon]
      decide
    obtain ⟨group, hgroup, hmem⟩ := Text.exists_mem_splitOn_iff.mpr ⟨hc, hcolon⟩
    rcases mem_or_isIPv4_of_withoutOctets hgroups hgroup with hrest | hoctets
    · have hhex := isGroup_of_groupsFit hfits.2 hrest
      rw [isGroup, Bool.and_eq_true] at hhex
      rw [isAddressChar, List.all_eq_true.mp hhex.1 c hmem]
      rfl
    · rcases isDigit_or_dot_of_isIPv4 hoctets hmem with hdigit | rfl
      · rw [isAddressChar, isHexDigit, hdigit]
        rfl
      · decide
  · cases hfits

theorem colon_mem_of_isAddress {s : List Char} (h : isAddress s = true) : ':' ∈ s := by
  by_contra hnot
  rw [isAddress, Text.splitOn_of_not_mem hnot] at h
  cases h

/-- An address has no slash, and a scope that is not empty and holds no second `%`. -/
theorem isIPv6_iff {s : List Char} :
    isIPv6 s = true ↔ '/' ∉ s ∧ isAddress (Text.cut '%' s).1 = true ∧
      ∀ scope, (Text.cut '%' s).2 = some scope → scope ≠ [] ∧ '%' ∉ scope := by
  rw [isIPv6, isAddress]
  dsimp only
  cases withoutOctets (Text.splitOn ':' (Text.cut '%' s).1) with
  | none => simp
  | some groups =>
    cases (Text.cut '%' s).2 with
    | none => simp [and_assoc]
    | some scope =>
      simp only [Bool.and_eq_true, Bool.not_eq_true', Option.some.injEq, forall_eq',
        List.isEmpty_eq_false_iff, ne_eq, List.contains_eq_mem, decide_eq_false_iff_not]
      constructor
      · rintro ⟨⟨⟨hslash, hscope⟩, hthree⟩, hfits⟩
        exact ⟨hslash, ⟨hthree, hfits⟩, hscope⟩
      · rintro ⟨hslash, ⟨hthree, hfits⟩, hscope⟩
        exact ⟨⟨⟨hslash, hscope⟩, hthree⟩, hfits⟩

/-! ## 3. Bracketed hosts -/

theorem isIPv6_of_loweredTo {s t : List Char} (hs : isIPv6 s = true) (h : LoweredTo s t) :
    isIPv6 t = true := by
  obtain ⟨hslash, haddress, hscope⟩ := isIPv6_iff.mp hs
  have hsmall {a a' : List Char} (ha : isAddress a = true) (hlow : LoweredTo a a') :
      isAddress a' = true := by
    have heq : a' = small a := hlow.eq_map_toLower fun c hc =>
      toNat_lt_of_isAddressChar (isAddressChar_of_isAddress ha hc)
    rw [heq, isAddress_small, ha]
  have hslash' : '/' ∉ t := fun hmem => hslash ((h.mem_iff (by decide)).mp hmem)
  rw [isIPv6_iff]
  rcases h.cut (d := '%') (by decide) with
    ⟨hcut, hcut'⟩ | ⟨a, scope, a', scope', hcut, hcut', ha, hz⟩
  · rw [hcut] at haddress
    rw [hcut']
    exact ⟨hslash', hsmall haddress h, fun scope hnone => by cases hnone⟩
  · rw [hcut] at haddress hscope
    obtain ⟨hne, hpercent⟩ := hscope scope rfl
    rw [hcut']
    refine ⟨hslash', hsmall haddress ha, fun z hz' => ?_⟩
    cases hz'
    exact ⟨fun hnil => hne (hz.eq_nil_iff.mp hnil),
      fun hmem => hpercent ((hz.mem_iff (by decide)).mp hmem)⟩

/-- An IPv6 address begins with no version, and is no IPv4 address. -/
theorem checkBracketedHost_of_isIPv6 {s : List Char} (h : isIPv6 s = true) :
    checkBracketedHost s = .ok () := by
  obtain ⟨-, haddress, -⟩ := isIPv6_iff.mp h
  have hoctets : ¬ isIPv4 s = true := by
    intro hoctets
    have hcolon : ':' ∈ s := by
      have hmem := colon_mem_of_isAddress haddress
      rcases Text.cut_cases '%' s with ⟨-, hcut⟩ | ⟨a, scope, rfl, -, hcut⟩
      · rwa [hcut] at hmem
      · rw [hcut] at hmem
        exact List.mem_append_left _ hmem
    rcases isDigit_or_dot_of_isIPv4 hoctets hcolon with hdigit | hdot
    · cases hdigit
    · cases hdot
  unfold checkBracketedHost
  split
  · next r =>
    have hfirst : 'v' ∈ (Text.cut '%' ('v' :: r)).1 := List.mem_cons_self
    have hchar := isAddressChar_of_isAddress haddress hfirst
    cases hchar
  · rw [if_neg hoctets, if_pos h]

/-- A host in brackets is an IPv6 address, or `v`, a version in hexadecimal digits, a dot and a text. -/
theorem checkBracketedHost_eq_ok_iff {s : List Char} :
    checkBracketedHost s = .ok () ↔ isIPv6 s = true ∨ ∃ version rest,
      s = 'v' :: version ++ '.' :: rest ∧ version ≠ [] ∧ version.all isHexDigit = true ∧
        rest ≠ [] := by
  constructor
  · intro h
    unfold checkBracketedHost at h
    split at h
    · next r =>
      refine .inr ?_
      rcases Text.cut_cases '.' r with ⟨-, hcut⟩ | ⟨version, rest, rfl, -, hcut⟩
      · rw [hcut] at h
        cases h
      · rw [hcut] at h
        cases rest with
        | nil => cases h
        | cons c rest =>
          dsimp only at h
          split at h
          · next hversion =>
            simp only [Bool.and_eq_true, Bool.not_eq_true', List.isEmpty_eq_false_iff] at hversion
            exact ⟨version, c :: rest, rfl, hversion.1, hversion.2, List.cons_ne_nil c rest⟩
          · cases h
    · split at h
      · cases h
      · split at h
        · next hsix => exact .inl hsix
        · cases h
  · rintro (hsix | ⟨version, rest, rfl, hne, hhex, hrest⟩)
    · exact checkBracketedHost_of_isIPv6 hsix
    · obtain ⟨c, rest, rfl⟩ := List.exists_cons_of_ne_nil hrest
      have hdot : '.' ∉ version := fun hmem => by
        cases List.all_eq_true.mp hhex '.' hmem
      simp [checkBracketedHost, Text.cut_append hdot, hne, hhex]

theorem checkBracketedHost_of_loweredTo {s t : List Char} (hs : checkBracketedHost s = .ok ())
    (h : LoweredTo s t) : checkBracketedHost t = .ok () := by
  rw [checkBracketedHost_eq_ok_iff] at hs ⊢
  rcases hs with hsix | ⟨version, rest, rfl, hne, hhex, hrest⟩
  · exact .inl (isIPv6_of_loweredTo hsix h)
  · obtain ⟨front, rest', rfl, hfront, hrest'⟩ := h.of_append_mark (by decide)
    have hascii : ∀ c ∈ 'v' :: version, c.toNat < 0x80 := by
      intro c hc
      rcases List.mem_cons.mp hc with rfl | hc
      · decide
      · exact toNat_lt_of_isHexDigit (List.all_eq_true.mp hhex c hc)
    have hsmall : front = 'v' :: small version := hfront.eq_map_toLower hascii
    refine .inr ⟨small version, rest', by rw [hsmall], by simpa using hne, ?_,
      fun hnil => hrest (hrest'.eq_nil_iff.mp hnil)⟩
    rwa [all_small isHexDigit_toLower]

/-! ## 4. Network locations -/

/-- What follows the user is a host in brackets, with a port or without, if brackets are used there at
all. -/
def BracketsFit (hostAndPort : List Char) : Prop :=
  ('[' ∉ hostAndPort ∧ checkBracketedHost (Text.cut ':' hostAndPort).1 = .ok ()) ∨
    ∃ bracketed, hostAndPort = '[' :: bracketed ∧
      checkBracketedHost (Text.cut ']' bracketed).1 = .ok () ∧
      ∀ port, (Text.cut ']' bracketed).2 = some port → port = [] ∨ ∃ rest, port = ':' :: rest

theorem checkBrackets_eq_ok_iff {s : List Char} :
    checkBrackets s = .ok () ↔
      ('[' ∈ s ↔ ']' ∈ s) ∧ ('[' ∈ s → BracketsFit (Text.cutLast '@' s).2) := by
  unfold checkBrackets
  by_cases hopen : '[' ∈ s
  · by_cases hclose : ']' ∈ s
    · simp only [List.contains_eq_mem, hopen, hclose]
      generalize (Text.cutLast '@' s).2 = hostAndPort
      rcases Text.cut_cases '[' hostAndPort with
        ⟨hnone, hcut⟩ | ⟨before, bracketed, rfl, hbefore, hcut⟩
      · have hno : ∀ bracketed, hostAndPort ≠ '[' :: bracketed := by
          rintro bracketed rfl
          exact hnone List.mem_cons_self
        simp [hcut, BracketsFit, hnone, hno]
      · cases before with
        | cons c before =>
          have hc : c ≠ '[' := fun heq => hbefore (heq ▸ List.mem_cons_self)
          rw [List.cons_append] at hcut ⊢
          simp [hcut, BracketsFit, hc]
        | nil =>
          rw [List.nil_append] at hcut ⊢
          cases hport : (Text.cut ']' bracketed).2 with
          | none => simp [hcut, BracketsFit, hport]
          | some port =>
            cases port with
            | nil => simp [hcut, BracketsFit, hport]
            | cons c rest => by_cases hc : c = ':' <;> simp [hcut, BracketsFit, hport, hc]
    · simp [hopen, hclose]
  · by_cases hclose : ']' ∈ s
    · simp [hopen, hclose]
    · simp [hopen, hclose]

theorem BracketsFit.lowered {s t : List Char} (hs : BracketsFit s) (h : LoweredTo s t) :
    BracketsFit t := by
  rcases hs with ⟨hnone, hhost⟩ | ⟨bracketed, rfl, hhost, hport⟩
  · refine .inl ⟨fun hmem => hnone ((h.mem_iff (by decide)).mp hmem), ?_⟩
    exact checkBracketedHost_of_loweredTo hhost (h.cut_before (by decide))
  · obtain ⟨bracketed', rfl, hb⟩ := h.of_cons_mark (by decide)
    refine .inr ⟨bracketed', rfl, ?_, fun port' hport' => ?_⟩
    · exact checkBracketedHost_of_loweredTo hhost (hb.cut_before (by decide))
    · rcases hb.cut (d := ']') (by decide) with ⟨-, hcut'⟩ | ⟨_, port, _, _, hcut, hcut', -, hlow⟩
      · rw [hcut'] at hport'
        cases hport'
      rw [hcut'] at hport'
      cases hport'
      rcases hport port (by rw [hcut]) with rfl | ⟨rest, rfl⟩
      · exact .inl (hlow.eq_nil_iff.mpr rfl)
      · obtain ⟨rest', rfl, -⟩ := hlow.of_cons_mark (by decide)
        exact .inr ⟨rest', rfl⟩

/-- **The brackets of a lowered network location are as good as before.** -/
theorem checkBrackets_of_loweredTo {s t : List Char} (hs : checkBrackets s = .ok ())
    (h : LoweredTo s t) : checkBrackets t = .ok () := by
  rw [checkBrackets_eq_ok_iff] at hs ⊢
  rw [h.mem_iff (by decide), h.mem_iff (by decide)]
  exact ⟨hs.1, fun hmem => (hs.2 hmem).lowered (h.cutLast (by decide))⟩

/-- A character that a part of a URL may hold: it ends no network location and is not dropped. -/
def isPartChar (c : Char) : Bool :=
  !isNetlocEnd c && c != '\t' && c != '\n' && c != '\r'

theorem isMark_of_not_isPartChar {c : Char} (h : isPartChar c = false) : IsMark c := by
  have hmarks : ['/', '?', '#', '\t', '\n', '\r'].all (fun d => decide (IsMark d)) = true := by
    decide
  refine of_decide_eq_true (List.all_eq_true.mp hmarks c ?_)
  by_contra hnot
  simp only [List.mem_cons, List.not_mem_nil, or_false, not_or] at hnot
  simp [isPartChar, isNetlocEnd, hnot] at h

theorem checkDelimiters_eq_ok_iff {s : List Char} :
    checkDelimiters s = .ok () ↔ ∀ c ∈ s, hidesDelimiter c = false := by
  unfold checkDelimiters
  split
  · next h => simpa using h
  · next h => simpa using h

/-- What a URL asks of its network location. -/
structure NetlocFits (s : List Char) : Prop where
  parts : s.all isPartChar = true
  brackets : checkBrackets s = .ok ()
  delimiters : checkDelimiters s = .ok ()

/-- **What fits as a network location still fits when it is lowered.** -/
theorem NetlocFits.lowered {s t : List Char} (hs : NetlocFits s) (h : LoweredTo s t) :
    NetlocFits t where
  parts := by
    rw [List.all_eq_true]
    intro c hc
    by_contra hnot
    rw [Bool.not_eq_true] at hnot
    have hold : c ∈ s := (h.mem_iff (isMark_of_not_isPartChar hnot)).mp hc
    rw [List.all_eq_true.mp hs.parts c hold] at hnot
    cases hnot
  brackets := checkBrackets_of_loweredTo hs.brackets h
  delimiters := by
    rw [checkDelimiters_eq_ok_iff]
    intro c hc
    rw [Bool.eq_false_iff]
    intro hhides
    have hold : c ∈ s := h.mem_of_mem hc fun hnew => Bool.eq_false_iff.mp hnew.2 hhides
    exact Bool.eq_false_iff.mp (checkDelimiters_eq_ok_iff.mp hs.delimiters c hold) hhides

end Url

end TokenEndpoint
