import Mathlib.Data.List.Induction
import Mathlib.Data.List.Nodup
import Mathlib.Data.List.Pairwise
import TokenEndpoint.Proofs.Blanks
import TokenEndpoint.Proofs.Building
/-!
Scope parameters, word by word. A server splits the parameter at blanks, while scopes are merged one given
text at a time; so the words of a parameter are distinct as long as a word is not given twice in different
company (`Apart`). Main statements:

* `words_append_cons`, `words_trim` -- the words of a text with a blank in it, and of a trimmed text;
* `words_merge_iff` -- which words a merged parameter has, and when each of them stands in it once.
-/

namespace TokenEndpoint

/-! ## 1. The words of a text -/

namespace Text

/-- The words of a list of characters. -/
def wordsOf (s : List Char) : List (List Char) :=
  (pieces isBlank s).filter fun w => !w.isEmpty

theorem words_eq (s : String) : words s = (wordsOf s.toList).map String.ofList := rfl

/-- At a separator the pieces in front of it end and those behind it begin. -/
theorem pieces_append_cons {sep : Char → Bool} {c : Char} (hc : sep c = true) (before after : List Char) :
    pieces sep (before ++ c :: after) = pieces sep before ++ pieces sep after := by
  induction before with
  | nil =>
    have hnil : pieces sep [] = [[]] := rfl
    rw [List.nil_append, hnil, List.singleton_append, pieces, if_pos hc]
  | cons d before ih =>
    rw [List.cons_append, pieces, pieces, ih]
    split
    · rfl
    · cases hpieces : pieces sep before with
      | nil => exact absurd hpieces (pieces_ne_nil sep before)
      | cons w ws => rfl

theorem wordsOf_append_cons {c : Char} (hc : isBlank c = true) (before after : List Char) :
    wordsOf (before ++ c :: after) = wordsOf before ++ wordsOf after := by
  rw [wordsOf, pieces_append_cons hc, List.filter_append]
  rfl

theorem wordsOf_blank_append {before : List Char} (hb : before.all isBlank = true) (s : List Char) :
    wordsOf (before ++ s) = wordsOf s := by
  induction before with
  | nil => rfl
  | cons c before ih =>
    rw [List.all_cons, Bool.and_eq_true] at hb
    have hcut : wordsOf ([] ++ c :: (before ++ s)) = wordsOf [] ++ wordsOf (before ++ s) :=
      wordsOf_append_cons hb.1 [] (before ++ s)
    exact hcut.trans (ih hb.2)

theorem wordsOf_append_blank {after : List Char} (ha : after.all isBlank = true) (s : List Char) :
    wordsOf (s ++ after) = wordsOf s := by
  cases after with
  | nil => rw [List.append_nil]
  | cons c after =>
    rw [List.all_cons, Bool.and_eq_true] at ha
    have hnone : wordsOf after = [] := by
      rw [← List.append_nil after, wordsOf_blank_append ha.2]
      rfl
    rw [wordsOf_append_cons ha.1, hnone, List.append_nil]

/-- Trimming a text takes no word away. -/
theorem words_trim (s : String) : words (trim s) = words s := by
  obtain ⟨before, after, hb, ha, hs⟩ := exists_trimChars_eq s.toList
  have hwords : wordsOf s.toList = wordsOf (trimChars s.toList) := by
    calc wordsOf s.toList = wordsOf (before ++ trimChars s.toList ++ after) := congrArg wordsOf hs
      _ = wordsOf (before ++ trimChars s.toList) := wordsOf_append_blank ha _
      _ = wordsOf (trimChars s.toList) := wordsOf_blank_append hb _
  rw [words_eq, words_eq, trim, String.toList_ofList, hwords]

/-- Texts that are joined by spaces keep their words. -/
theorem words_intercalate (texts : List String) :
    words (String.intercalate " " texts) = texts.flatMap words := by
  have hjoined (parts : List (List Char)) :
      wordsOf (List.intercalate [' '] parts) = parts.flatMap wordsOf := by
    induction parts with
    | nil => rfl
    | cons part rest ih =>
      cases rest with
      | nil => rw [List.intercalate_singleton, List.flatMap_singleton]
      | cons next rest =>
        rw [List.intercalate_cons_cons, List.append_assoc, List.singleton_append,
          wordsOf_append_cons (by decide), ih, ← List.flatMap_cons]
  have hspace : " ".toList = [' '] := rfl
  rw [words_eq, String.toList_intercalate, hspace, hjoined, List.flatMap_map, List.map_flatMap]
  rfl

end Text

/-! ## 2. Items at their first place -/

section FirstPlaces

variable {α β : Type} [DecidableEq α] [DecidableEq β]

/-- An item at the end is kept if it is not there already. -/
theorem eraseDups_concat (items : List α) (x : α) :
    (items ++ [x]).eraseDups = if x ∈ items then items.eraseDups else items.eraseDups ++ [x] := by
  rw [List.eraseDups_append]
  by_cases hmem : x ∈ items
  · have hnone : [x].removeAll items = [] := by simp [List.removeAll, hmem]
    rw [hnone, if_pos hmem]
    exact List.append_nil _
  · have hone : [x].removeAll items = [x] := by simp [List.removeAll, hmem]
    rw [hone, if_neg hmem]
    rfl

theorem nodup_eraseDups (items : List α) : items.eraseDups.Nodup := by
  induction items using List.reverseRecOn with
  | nil => exact List.nodup_nil
  | append_singleton items x ih =>
    rw [eraseDups_concat]
    split
    · exact ih
    · next hnew =>
      exact ih.append (List.nodup_singleton x)
        (List.disjoint_singleton.mpr fun hmem => hnew (List.mem_eraseDups.mp hmem))

theorem eraseDups_of_nodup {items : List α} (h : items.Nodup) : items.eraseDups = items := by
  induction items using List.reverseRecOn with
  | nil => rfl
  | append_singleton items x ih =>
    have hnew : x ∉ items := fun hmem => List.disjoint_of_nodup_append h hmem (List.mem_singleton_self x)
    rw [eraseDups_concat, if_neg hnew, ih h.of_append_left]

/-- The parts of the items at their first place are the parts at their first place, if no part is that of
two items. -/
theorem eraseDups_flatMap {f : α → List β} {items : List α} (hsingle : ∀ x ∈ items, (f x).Nodup)
    (hshared : ∀ x ∈ items, ∀ y ∈ items, ∀ b ∈ f x, b ∈ f y → x = y) :
    (items.flatMap f).eraseDups = items.eraseDups.flatMap f := by
  induction items using List.reverseRecOn with
  | nil => rfl
  | append_singleton items x ih =>
    have hx : x ∈ items ++ [x] := List.mem_append_right items (List.mem_singleton_self x)
    have hitems {y : α} (hy : y ∈ items) : y ∈ items ++ [x] := List.mem_append_left [x] hy
    have hih := ih (fun y hy => hsingle y (hitems hy))
      fun y hy z hz => hshared y (hitems hy) z (hitems hz)
    rw [List.flatMap_append, List.flatMap_singleton, List.eraseDups_append, hih, eraseDups_concat]
    by_cases hmem : x ∈ items
    · have hnone : (f x).removeAll (items.flatMap f) = [] := by
        refine List.filter_eq_nil_iff.mpr fun b hb => ?_
        have hthere : b ∈ items.flatMap f := List.mem_flatMap.mpr ⟨x, hmem, hb⟩
        simpa using hthere
      rw [hnone, if_pos hmem]
      exact List.append_nil _
    · have hall : (f x).removeAll (items.flatMap f) = f x := by
        refine List.filter_eq_self.mpr fun b hb => ?_
        have hnot : b ∉ items.flatMap f := by
          intro hthere
          obtain ⟨y, hy, hby⟩ := List.mem_flatMap.mp hthere
          exact hmem (hshared x hx y (hitems hy) b hb hby ▸ hy)
        simpa using hnot
      rw [hall, if_neg hmem, eraseDups_of_nodup (hsingle x hx), List.flatMap_append,
        List.flatMap_singleton]

end FirstPlaces

/-- A part of one item is counted once in the parts of distinct items if it is a part of no other. -/
theorem count_flatMap_eq_one_iff {α β : Type} [DecidableEq β] {f : α → List β} {items : List α}
    {x : α} {b : β} (hnodup : items.Nodup) (hx : x ∈ items) (hb : (f x).count b = 1) :
    (items.flatMap f).count b = 1 ↔ ∀ y ∈ items, b ∈ f y → y = x := by
  obtain ⟨front, rear, rfl⟩ := List.append_of_mem hx
  obtain ⟨-, hrest, hfront⟩ := List.nodup_append.mp hnodup
  have hrear : x ∉ rear := (List.nodup_cons.mp hrest).1
  have hcount : ((front ++ x :: rear).flatMap f).count b = 1 ↔
      b ∉ front.flatMap f ∧ b ∉ rear.flatMap f := by
    rw [List.flatMap_append, List.flatMap_cons, List.count_append, List.count_append, hb,
      ← List.count_eq_zero, ← List.count_eq_zero]
    omega
  rw [hcount, List.mem_flatMap, List.mem_flatMap]
  constructor
  · rintro ⟨hnot, hnot'⟩ y hy hby
    rcases List.mem_append.mp hy with hin | hin
    · exact absurd ⟨y, hin, hby⟩ hnot
    · rcases List.mem_cons.mp hin with heq | hin
      · exact heq
      · exact absurd ⟨y, hin, hby⟩ hnot'
  · intro h
    refine ⟨?_, ?_⟩
    · rintro ⟨y, hy, hby⟩
      exact hfront y hy x List.mem_cons_self (h y (List.mem_append_left _ hy) hby)
    · rintro ⟨y, hy, hby⟩
      have heq := h y (List.mem_append_right _ (List.mem_cons_of_mem x hy)) hby
      exact hrear (heq ▸ hy)

namespace Scope

/-! ## 3. Merged scopes -/

/-- The given texts trimmed, blank ones left out. -/
def trimmed (given : List String) : List String :=
  (given.map Text.trim).filter fun scope => !scope.isEmpty

theorem mem_trimmed_iff {given : List String} {scope : String} :
    scope ∈ trimmed given ↔ scope ≠ "" ∧ ∃ s ∈ given, Text.trim s = scope := by
  simp [trimmed, and_comm]

/-- Merged are the trimmed texts, each at its first place. -/
theorem mergeList_eq (scopes reserved : List String) :
    mergeList scopes reserved = (trimmed (scopes ++ reserved)).eraseDups := by
  rw [mergeList]
  induction scopes ++ reserved using List.reverseRecOn with
  | nil => rfl
  | append_singleton given s ih =>
    rw [List.foldl_append, ih, List.foldl_cons, List.foldl_nil, add]
    by_cases hempty : Text.trim s = ""
    · have hsame : trimmed (given ++ [s]) = trimmed given := by simp [trimmed, hempty]
      rw [hsame]
      simp [hempty]
    · have hmore : trimmed (given ++ [s]) = trimmed given ++ [Text.trim s] := by simp [trimmed, hempty]
      rw [hmore, eraseDups_concat]
      simp [hempty]

/-- Trimming keeps the words, and a blank text has none. -/
theorem words_eq_nil_of_trim {s : String} (h : Text.trim s = "") : Text.words s = [] := by
  rw [← Text.words_trim, h]
  rfl

theorem flatMap_words_trimmed (given : List String) :
    (trimmed given).flatMap Text.words = given.flatMap Text.words := by
  induction given with
  | nil => rfl
  | cons s rest ih =>
    by_cases hempty : Text.trim s = ""
    · have hsame : trimmed (s :: rest) = trimmed rest := by simp [trimmed, hempty]
      rw [hsame, ih, List.flatMap_cons, words_eq_nil_of_trim hempty, List.nil_append]
    · have hmore : trimmed (s :: rest) = Text.trim s :: trimmed rest := by simp [trimmed, hempty]
      rw [hmore, List.flatMap_cons, ih, Text.words_trim, List.flatMap_cons]

/-- The words of a scope parameter are those of the merged texts. -/
theorem words_merge (scopes reserved : List String) :
    Text.words (merge scopes reserved) =
      (trimmed (scopes ++ reserved)).eraseDups.flatMap Text.words := by
  rw [merge, Text.words_intercalate, mergeList_eq]

theorem mem_words_merge_iff {scopes reserved : List String} {word : String} :
    word ∈ Text.words (merge scopes reserved) ↔ ∃ s ∈ scopes ++ reserved, word ∈ Text.words s := by
  rw [words_merge, List.mem_flatMap]
  simp only [List.mem_eraseDups]
  rw [← List.mem_flatMap, flatMap_words_trimmed, List.mem_flatMap]

/-! ## 4. Words that are given twice -/

/-- No word stands twice in a given text, nor in two that differ by more than the blanks around them. -/
structure Apart (given : List String) : Prop where
  single : ∀ s ∈ given, (Text.words s).Nodup
  shared : ∀ s ∈ given, ∀ t ∈ given, ∀ word ∈ Text.words s, word ∈ Text.words t →
    Text.trim s = Text.trim t

variable {given : List String}

theorem Apart.eraseDups_words (h : Apart given) :
    (given.flatMap Text.words).eraseDups = (trimmed given).eraseDups.flatMap Text.words := by
  rw [← flatMap_words_trimmed]
  refine eraseDups_flatMap (fun x hx => ?_) fun x hx y hy word hwx hwy => ?_
  · obtain ⟨-, s, hs, rfl⟩ := mem_trimmed_iff.mp hx
    rw [Text.words_trim]
    exact h.single s hs
  · obtain ⟨-, s, hs, rfl⟩ := mem_trimmed_iff.mp hx
    obtain ⟨-, t, ht, rfl⟩ := mem_trimmed_iff.mp hy
    rw [Text.words_trim] at hwx hwy
    exact h.shared s hs t ht word hwx hwy

/-- A text with a word in it is merged. -/
theorem trim_mem_of_word {s word : String} (hs : s ∈ given) (hword : word ∈ Text.words s) :
    Text.trim s ∈ (trimmed given).eraseDups := by
  refine List.mem_eraseDups.mpr (mem_trimmed_iff.mpr ⟨fun hempty => ?_, s, hs, rfl⟩)
  rw [words_eq_nil_of_trim hempty] at hword
  cases hword

theorem apart_of_nodup (h : ((trimmed given).eraseDups.flatMap Text.words).Nodup) : Apart given := by
  obtain ⟨hsingle, hpairwise⟩ := List.nodup_flatMap.mp h
  refine ⟨fun s hs => ?_, fun s hs t ht word hws hwt => ?_⟩
  · by_cases hempty : Text.trim s = ""
    · rw [words_eq_nil_of_trim hempty]
      exact List.nodup_nil
    · rw [← Text.words_trim]
      exact hsingle _ (List.mem_eraseDups.mpr (mem_trimmed_iff.mpr ⟨hempty, s, hs, rfl⟩))
  · by_contra hne
    have hsymm : Std.Symm (Function.onFun List.Disjoint Text.words) :=
      ⟨fun _ _ hdisjoint _ hy hx => hdisjoint hx hy⟩
    have hdisjoint := hpairwise.forall (trim_mem_of_word hs hws) (trim_mem_of_word ht hwt) hne
    rw [← Text.words_trim] at hws hwt
    exact hdisjoint hws hwt

/-- The words of a parameter are distinct exactly if no word is given twice in different company. -/
theorem nodup_words_merge_iff (scopes reserved : List String) :
    (Text.words (merge scopes reserved)).Nodup ↔ Apart (scopes ++ reserved) := by
  rw [words_merge]
  refine ⟨apart_of_nodup, fun h => ?_⟩
  rw [← h.eraseDups_words]
  exact nodup_eraseDups _

theorem words_merge_eq_iff (scopes reserved : List String) :
    Text.words (merge scopes reserved) = ((scopes ++ reserved).flatMap Text.words).eraseDups ↔
      Apart (scopes ++ reserved) := by
  refine ⟨fun h => ?_, fun h => ?_⟩
  · rw [← nodup_words_merge_iff, h]
    exact nodup_eraseDups _
  · rw [words_merge, h.eraseDups_words]

/-! ## 5. The scopes of a user's grant -/

/-- A name that is one word, and is given, stands once in the parameter exactly if no other text has it as
a word. -/
theorem count_words_merge_eq_one_iff {scopes reserved : List String} {name : String}
    (hname : Text.words name = [name]) (htrim : Text.trim name = name)
    (hmem : name ∈ scopes ++ reserved) :
    (Text.words (merge scopes reserved)).count name = 1 ↔
      ∀ s ∈ scopes ++ reserved, name ∈ Text.words s → Text.trim s = name := by
  have hthere : name ∈ (trimmed (scopes ++ reserved)).eraseDups := by
    have hword : name ∈ Text.words name := hname ▸ List.mem_singleton_self name
    rw [← htrim]
    exact trim_mem_of_word hmem hword
  have honce : (Text.words name).count name = 1 := by
    rw [hname]
    exact List.count_singleton_self
  rw [words_merge, count_flatMap_eq_one_iff (nodup_eraseDups _) hthere honce]
  constructor
  · intro h s hs hword
    have hmerged := trim_mem_of_word hs hword
    rw [← Text.words_trim] at hword
    exact h _ hmerged hword
  · intro h text htext hword
    obtain ⟨-, s, hs, rfl⟩ := mem_trimmed_iff.mp (List.mem_eraseDups.mp htext)
    rw [Text.words_trim] at hword
    exact h s hs hword

theorem word_of_mem_common {name : String} (h : name ∈ common) :
    Text.words name = [name] ∧ Text.trim name = name := by
  simp only [common, List.mem_cons, List.not_mem_nil, or_false] at h
  rcases h with rfl | rfl | rfl <;> exact ⟨by decide, by decide⟩

/-- A reserved scope stands once in the parameter exactly if the caller gives it in no company. -/
theorem count_common_iff (scopes : List String) {name : String} (h : name ∈ common) :
    (Text.words (merge scopes common)).count name = 1 ↔
      ∀ s ∈ scopes, name ∈ Text.words s → Text.trim s = name := by
  obtain ⟨hname, htrim⟩ := word_of_mem_common h
  rw [count_words_merge_eq_one_iff hname htrim (List.mem_append_right scopes h)]
  refine ⟨fun hall s hs => hall s (List.mem_append_left _ hs), fun hall s hs hword => ?_⟩
  rcases List.mem_append.mp hs with hs | hs
  · exact hall s hs hword
  · -- the reserved scopes are one word each
    obtain ⟨hword', htrim'⟩ := word_of_mem_common hs
    rw [hword', List.mem_singleton] at hword
    rw [htrim', hword]

theorem merge_common_ne (scopes : List String) : merge scopes common ≠ "" := by
  intro hempty
  have hmem : "openid" ∈ Text.words (merge scopes common) :=
    mem_words_merge_iff.mpr ⟨"openid", List.mem_append_right scopes (by decide), by decide⟩
  rw [hempty] at hmem
  exact absurd hmem (by decide)

end Scope

/-- A flow of this library that signs a user in. -/
def Flow.isUser : Flow → Bool
  | authorizationCode .. | refreshToken _ | deviceCode _ | password .. | onBehalfOf _ => true
  | clientCredentials | custom _ | whole _ => false

namespace Grant

/-- A user's grant sends its scopes merged with the reserved ones. -/
theorem exists_scope_of_isUser {g : Grant} (h : g.flow.isUser = true) :
    ∃ params, g.toParameters = .ok params ∧
      params.get? "scope" = some [Scope.merge g.scopes Scope.common] := by
  have hbuiltIn : g.flow.isBuiltIn = true := by
    cases hflow : g.flow <;> rw [hflow] at h <;> first | rfl | cases h
  have hscope : g.scopeParameter = Scope.merge g.scopes Scope.common := by
    rw [scopeParameter]
    cases hflow : g.flow <;> rw [hflow] at h <;> first | rfl | cases h
  obtain ⟨params, hparams, -⟩ := Flow.exists_parameters hbuiltIn
  refine ⟨_, toParameters_of_isBuiltIn hbuiltIn hparams, ?_⟩
  rw [get?_setGiven_of_ne (by decide), hscope, setGiven_of_ne (Scope.merge_common_ne g.scopes),
    Fields.get?_set_self]

end Grant

/-! ## 6. The law of scope parameters -/

namespace Scope

/-- **A scope parameter has the words of all texts that are given**, the caller's and the reserved ones;
each of them once, and in the order of their first places, exactly if no word is given twice in different
company. Of the reserved scopes, which every user's grant sends, each is named once exactly if the caller
gives it by itself or not at all. -/
theorem words_merge_iff (scopes reserved : List String) :
    (∀ word, word ∈ Text.words (merge scopes reserved) ↔
      ∃ s ∈ scopes ++ reserved, word ∈ Text.words s) ∧
    ((Text.words (merge scopes reserved)).Nodup ↔ Apart (scopes ++ reserved)) ∧
    (Text.words (merge scopes reserved) = ((scopes ++ reserved).flatMap Text.words).eraseDups ↔
      Apart (scopes ++ reserved)) ∧
    ∀ g : Grant, g.flow.isUser = true → g.scopes = scopes →
      ∃ params text, g.toParameters = .ok params ∧ params.get? "scope" = some [text] ∧
        ∀ name ∈ common, (Text.words text).count name = 1 ↔
          ∀ s ∈ scopes, name ∈ Text.words s → Text.trim s = name := by
  refine ⟨fun word => mem_words_merge_iff, nodup_words_merge_iff scopes reserved,
    words_merge_eq_iff scopes reserved, ?_⟩
  rintro g hg rfl
  obtain ⟨params, hparams, hscope⟩ := Grant.exists_scope_of_isUser hg
  exact ⟨params, _, hparams, hscope, fun name hname => count_common_iff g.scopes hname⟩

/-- Two scopes in one text, of which one is reserved: it is named twice. -/
theorem words_merge_iff_two_in_one :
    let scopes := ["User.Read openid"]
    let g : Grant := { flow := .refreshToken "RT", scopes }
    merge scopes common = "User.Read openid openid profile offline_access" ∧
      ¬ (Text.words (merge scopes common)).Nodup ∧
      ∃ params text, g.toParameters = .ok params ∧ params.get? "scope" = some [text] ∧
        (Text.words text).count "openid" ≠ 1 ∧ (Text.words text).count "profile" = 1 := by
  intro scopes g
  obtain ⟨-, hnodup, -, hgrants⟩ := words_merge_iff scopes common
  obtain ⟨params, text, hparams, hscope, hcount⟩ := hgrants g rfl rfl
  have hword : "openid" ∈ Text.words "User.Read openid" := by decide
  have hcompany : Text.trim "User.Read openid" ≠ "openid" := by decide
  refine ⟨by decide, fun h => ?_, params, text, hparams, hscope, fun hone => ?_, ?_⟩
  · have hsame := (hnodup.mp h).shared "User.Read openid" (by decide) "openid" (by decide) "openid"
      hword (by decide)
    exact hcompany hsame
  · exact hcompany ((hcount "openid" (by decide)).mp hone "User.Read openid" (by decide) hword)
  · refine (hcount "profile" (by decide)).mpr fun s hs hprofile => ?_
    rw [List.mem_singleton.mp hs] at hprofile
    exact absurd hprofile (by decide)

end Scope

end TokenEndpoint
