import Mathlib.Data.List.TakeDrop
import TokenEndpoint.Failure
import TokenEndpoint.Proofs.LoweredNetlocs
/-!
URLs written and read. An absolute URL is written from a network location and the segments of its path;
read again it has both of them, the last segment without its parameters. Main statements:

* `parseChars_written` -- what is read of a written URL;
* `fits_of_parseChars` -- what is read of any URL can be written.
-/

namespace TokenEndpoint.Url

/-! ## 1. Writing -/

/-- Every segment behind a slash. -/
def writtenPath (segments : List (List Char)) : List Char :=
  segments.flatMap fun segment => '/' :: segment

def written (netloc : List Char) (segments : List (List Char)) : List Char :=
  'h' :: 't' :: 't' :: 'p' :: 's' :: ':' :: '/' :: '/' :: (netloc ++ writtenPath segments)

theorem isEmpty_of_written {text : String} {netloc : List Char} {segments : List (List Char)}
    (h : text.toList = written netloc segments) : text.isEmpty = false := by
  rw [← Bool.not_eq_true, String.isEmpty_iff, ← String.toList_eq_nil_iff, h]
  exact List.cons_ne_nil _ _

theorem writtenPath_append (front rear : List (List Char)) :
    writtenPath (front ++ rear) = writtenPath front ++ writtenPath rear :=
  List.flatMap_append

theorem writtenPath_concat (front : List (List Char)) (last : List Char) :
    writtenPath (front ++ [last]) = writtenPath front ++ '/' :: last := by
  rw [writtenPath_append, writtenPath, writtenPath, List.flatMap_singleton]

theorem written_concat (netloc : List Char) (front : List (List Char)) (last : List Char) :
    written netloc (front ++ [last]) = written netloc front ++ '/' :: last := by
  rw [written, writtenPath_concat, ← List.append_assoc]
  rfl

theorem eq_slash_or_isPartChar {segments : List (List Char)}
    (h : ∀ segment ∈ segments, segment.all isPartChar = true) {c : Char}
    (hc : c ∈ writtenPath segments) : c = '/' ∨ isPartChar c = true := by
  obtain ⟨segment, hsegment, hmem⟩ := List.mem_flatMap.mp hc
  rcases List.mem_cons.mp hmem with hslash | hmem
  · exact .inl hslash
  · exact .inr (List.all_eq_true.mp (h segment hsegment) c hmem)

/-! ## 2. Reading what is written -/

theorem clean_of_kept {c : Char} {s : List Char} (hfirst : 0x20 < c.toNat)
    (h : (c :: s).all (fun x => x != '\t' && x != '\n' && x != '\r') = true) :
    clean (c :: s) = c :: s := by
  have hdrop : (c :: s).dropWhile (·.toNat ≤ 0x20) = c :: s :=
    List.dropWhile_cons_of_neg (by simpa using hfirst)
  rw [clean, hdrop, List.filter_eq_self]
  exact List.all_eq_true.mp h

theorem clean_written {netloc : List Char} (hnetloc : netloc.all isPartChar = true)
    {segments : List (List Char)} (h : ∀ segment ∈ segments, segment.all isPartChar = true) :
    clean (written netloc segments) = written netloc segments := by
  have hkept {c : Char} (hc : isPartChar c = true) :
      (c != '\t' && c != '\n' && c != '\r') = true := by
    simp only [isPartChar, Bool.and_eq_true] at hc ⊢
    exact ⟨⟨hc.1.1.2, hc.1.2⟩, hc.2⟩
  refine clean_of_kept (by decide) (List.all_eq_true.mpr fun c hc => ?_)
  have hparts : c ∈ ['h', 't', 't', 'p', 's', ':', '/', '/'] ++ (netloc ++ writtenPath segments) := hc
  rcases List.mem_append.mp hparts with hscheme | hrest
  · have hall : ['h', 't', 't', 'p', 's', ':', '/', '/'].all
        (fun c => c != '\t' && c != '\n' && c != '\r') = true := by decide
    exact List.all_eq_true.mp hall c hscheme
  rcases List.mem_append.mp hrest with hmem | hmem
  · exact hkept (List.all_eq_true.mp hnetloc c hmem)
  · rcases eq_slash_or_isPartChar h hmem with rfl | hpart
    · rfl
    · exact hkept hpart

theorem splitScheme_https (rest : List Char) :
    splitScheme ('h' :: 't' :: 't' :: 'p' :: 's' :: ':' :: rest) = ("https".toList, rest) :=
  rfl

/-- The network location reaches up to the path. -/
theorem splitNetloc_append {netloc rest : List Char} (h : netloc.all isPartChar = true)
    (hrest : ∀ c ∈ rest.head?, isNetlocEnd c = true) :
    splitNetloc ('/' :: '/' :: (netloc ++ rest)) = (netloc, rest) := by
  have hinside : ∀ c ∈ netloc, (!isNetlocEnd c) = true := by
    intro c hc
    have hpart := List.all_eq_true.mp h c hc
    simp only [isPartChar, Bool.and_eq_true] at hpart
    exact hpart.1.1.1
  have hend : rest.takeWhile (fun c => !isNetlocEnd c) = [] ∧
      rest.dropWhile (fun c => !isNetlocEnd c) = rest := by
    cases rest with
    | nil => exact ⟨rfl, rfl⟩
    | cons c rest => simp [hrest c rfl]
  show (netloc ++ rest).span (fun c => !isNetlocEnd c) = _
  rw [List.span_eq_takeWhile_dropWhile, List.takeWhile_append_of_pos hinside,
    List.dropWhile_append_of_pos hinside, hend.1, hend.2, List.append_nil]

/-- The parameters of a path are those of its last segment. -/
theorem withoutParameters_concat (front : List (List Char)) {last : List Char}
    (h : last.all isPartChar = true) :
    withoutParameters (writtenPath (front ++ [last])) =
      writtenPath (front ++ [(Text.cut ';' last).1]) := by
  have hslash : '/' ∉ last := fun hmem => by cases List.all_eq_true.mp h '/' hmem
  rw [withoutParameters, writtenPath_concat, Text.cutLast_append hslash, writtenPath_concat]

theorem splitOn_writtenPath {segments : List (List Char)}
    (h : ∀ segment ∈ segments, segment.all isPartChar = true) :
    Text.splitOn '/' (writtenPath segments) = [] :: segments := by
  have hbehind (before : List Char) (hbefore : '/' ∉ before) :
      Text.splitOn '/' (before ++ writtenPath segments) = before :: segments := by
    induction segments generalizing before with
    | nil =>
      rw [writtenPath, List.flatMap_nil, List.append_nil, Text.splitOn_of_not_mem hbefore]
    | cons segment segments ih =>
      have hslash : '/' ∉ segment := fun hmem => by
        cases List.all_eq_true.mp (h segment List.mem_cons_self) '/' hmem
      have hrest := ih (fun s hs => h s (List.mem_cons_of_mem segment hs)) segment hslash
      rw [writtenPath, List.flatMap_cons, List.cons_append, Text.splitOn_append hbefore]
      exact congrArg (before :: ·) hrest
  exact hbehind [] List.not_mem_nil

/-- **What is read of a written URL**: its network location and its segments, the last one without its
parameters, and none of them empty. -/
theorem parseChars_written {netloc : List Char} (hnetloc : NetlocFits netloc)
    {front : List (List Char)} {last : List Char}
    (h : ∀ segment ∈ front ++ [last], segment.all isPartChar = true) :
    ∃ url, parseChars (written netloc (front ++ [last])) = .ok url ∧ url.scheme = "https" ∧
      url.netloc = String.ofList netloc ∧
      url.segments = ((front ++ [(Text.cut ';' last).1]).filter fun s => !s.isEmpty).map
        String.ofList := by
  have hfragment : '#' ∉ writtenPath (front ++ [last]) := fun hmem => by
    rcases eq_slash_or_isPartChar h hmem with hc | hc <;> cases hc
  have hquery : '?' ∉ writtenPath (front ++ [last]) := fun hmem => by
    rcases eq_slash_or_isPartChar h hmem with hc | hc <;> cases hc
  have hhead : ∀ c ∈ (writtenPath (front ++ [last])).head?, isNetlocEnd c = true := by
    intro c hc
    cases front <;> cases hc <;> rfl
  have hlast : last.all isPartChar = true := h last (List.mem_append_right front List.mem_cons_self)
  refine ⟨{ scheme := "https"
            netloc := String.ofList netloc
            path := String.ofList (writtenPath (front ++ [(Text.cut ';' last).1]))
            query := ""
            fragment := "" }, ?_, rfl, rfl, ?_⟩
  · unfold parseChars
    rw [clean_written hnetloc.parts h, written, splitScheme_https]
    dsimp only
    rw [splitNetloc_append hnetloc.parts hhead]
    dsimp only
    rw [hnetloc.brackets, ok_bind, Text.cut_of_not_mem hfragment]
    dsimp only
    rw [Text.cut_of_not_mem hquery]
    dsimp only
    rw [hnetloc.delimiters, ok_bind, String.ofList_toList, if_pos (by decide),
      withoutParameters_concat front hlast]
    rfl
  · rw [segments, String.toList_ofList, splitOn_writtenPath]
    · rfl
    · intro segment hsegment
      rcases List.mem_append.mp hsegment with hfront | hend
      · exact h segment (List.mem_append_left _ hfront)
      · rw [List.mem_singleton.mp hend, List.all_eq_true]
        exact fun c hc => List.all_eq_true.mp hlast c ((Text.cut_prefix ';' last).subset hc)

/-! ## 3. What is read -/

/-- What follows the scheme is the end of the text. -/
theorem suffix_splitScheme (s : List Char) : (splitScheme s).2 <:+ s := by
  unfold splitScheme
  rcases Text.cut_cases ':' s with ⟨-, hcut⟩ | ⟨before, after, hs, -, hcut⟩
  · rw [hcut]
    split
    · next hsome => cases hsome
    · exact List.suffix_rfl
  · rw [hcut]
    split
    · next hsome =>
      split
      · cases hsome
        rw [hs, List.append_cons]
        exact List.suffix_append _ after
      · exact List.suffix_rfl
    · exact List.suffix_rfl

theorem of_mem_splitNetloc {s : List Char} {c : Char} :
    (c ∈ (splitNetloc s).1 → c ∈ s ∧ isNetlocEnd c = false) ∧ (c ∈ (splitNetloc s).2 → c ∈ s) := by
  unfold splitNetloc
  split
  · next rest =>
    rw [List.span_eq_takeWhile_dropWhile]
    constructor
    · intro hc
      have hmem : c ∈ rest := (List.takeWhile_prefix _).subset hc
      have hend := List.all_eq_true.mp List.all_takeWhile c hc
      exact ⟨List.mem_cons_of_mem _ (List.mem_cons_of_mem _ hmem), by simpa using hend⟩
    · intro hc
      exact List.mem_cons_of_mem _ (List.mem_cons_of_mem _ ((List.dropWhile_suffix _).subset hc))
  · exact ⟨fun hc => absurd hc List.not_mem_nil, fun hc => hc⟩

theorem mem_of_mem_withoutParameters {path : List Char} {c : Char}
    (h : c ∈ withoutParameters path) : c ∈ path := by
  unfold withoutParameters at h
  rcases Text.cutLast_cases '/' path with ⟨-, hcut⟩ | ⟨before, after, rfl, -, hcut⟩
  · rw [hcut] at h
    exact (Text.cut_prefix ';' path).subset h
  · rw [hcut] at h
    rcases List.mem_append.mp h with hmem | hmem
    · exact List.mem_append_left _ hmem
    · rcases List.mem_cons.mp hmem with rfl | hmem
      · exact List.mem_append_right _ List.mem_cons_self
      · exact List.mem_append_right _ (List.mem_cons_of_mem _ ((Text.cut_prefix ';' after).subset hmem))

/-- The network location passes the checks, and neither a query nor a fragment is left in the path. -/
theorem parseChars_eq_ok {s : List Char} {url : Url} (h : parseChars s = .ok url) :
    ∃ netloc rest, splitNetloc (splitScheme (clean s)).2 = (netloc, rest) ∧
      checkBrackets netloc = .ok () ∧ checkDelimiters netloc = .ok () ∧
      url.netloc = String.ofList netloc ∧
      ∀ c ∈ url.path.toList, c ∈ (Text.cut '?' (Text.cut '#' rest).1).1 := by
  unfold parseChars at h
  dsimp only at h
  obtain ⟨⟨⟩, hbrackets, h⟩ := bind_eq_ok.mp h
  obtain ⟨⟨⟩, hdelimiters, h⟩ := bind_eq_ok.mp h
  cases h
  refine ⟨_, _, rfl, hbrackets, hdelimiters, rfl, fun c hc => ?_⟩
  rw [String.toList_ofList] at hc
  split at hc
  · exact mem_of_mem_withoutParameters hc
  · exact hc

/-- **What is read of any URL can be written**: a network location that fits, and segments. -/
theorem fits_of_parseChars {s : List Char} {url : Url} (h : parseChars s = .ok url) :
    NetlocFits url.netloc.toList ∧
      ∀ segment ∈ url.segments, segment.toList ≠ [] ∧ segment.toList.all isPartChar = true := by
  obtain ⟨netloc, rest, hsplit, hbrackets, hdelimiters, hnetloc, hpath⟩ := parseChars_eq_ok h
  have hkept {c : Char} (hc : c ∈ (splitScheme (clean s)).2) :
      (c != '\t' && c != '\n' && c != '\r') = true :=
    (List.mem_filter.mp ((suffix_splitScheme _).subset hc)).2
  have hpart {c : Char} (hc : c ∈ (splitScheme (clean s)).2) (hend : isNetlocEnd c = false) :
      isPartChar c = true := by
    have hk := hkept hc
    rw [Bool.and_eq_true, Bool.and_eq_true] at hk
    rw [isPartChar, hend, hk.1.1, hk.1.2, hk.2]
    rfl
  constructor
  · rw [hnetloc, String.toList_ofList]
    refine ⟨List.all_eq_true.mpr fun c hc => ?_, hbrackets, hdelimiters⟩
    have hmem : c ∈ (splitNetloc (splitScheme (clean s)).2).1 := by rwa [hsplit]
    obtain ⟨hrest, hend⟩ := of_mem_splitNetloc.1 hmem
    exact hpart hrest hend
  · intro segment hsegment
    obtain ⟨piece, hpiece, rfl⟩ := List.mem_map.mp hsegment
    obtain ⟨hsplit', hne⟩ := List.mem_filter.mp hpiece
    rw [String.toList_ofList]
    refine ⟨by simpa using hne, List.all_eq_true.mpr fun c hc => ?_⟩
    obtain ⟨hmem, hslash⟩ := Text.exists_mem_splitOn_iff.mp ⟨piece, hsplit', hc⟩
    have hquery := hpath c hmem
    have hfragment := (Text.cut_prefix '?' _).subset hquery
    have hrest : c ∈ (splitScheme (clean s)).2 := by
      refine of_mem_splitNetloc.2 ?_
      rw [hsplit]
      exact (Text.cut_prefix '#' rest).subset hfragment
    have hc' : c ≠ '?' ∧ c ≠ '#' :=
      ⟨fun heq => Text.sep_not_mem_cut '?' _ (heq ▸ hquery),
        fun heq => Text.sep_not_mem_cut '#' rest (heq ▸ hfragment)⟩
    exact hpart hrest (by simp [isNetlocEnd, hslash, hc'])

/-- The host fits as a network location again. -/
theorem netlocFits_host {s : List Char} {url : Url} (h : parseChars s = .ok url) :
    NetlocFits url.host.toList := by
  have hlow := Text.loweredTo_lowerFrom false url.netloc.toList
  rw [host, Text.lower, String.toList_ofList]
  exact (fits_of_parseChars h).1.lowered hlow

theorem host_isEmpty (url : Url) : url.host.isEmpty = url.netloc.isEmpty := by
  have hlow := Text.loweredTo_lowerFrom false url.netloc.toList
  rw [Bool.eq_iff_iff, String.isEmpty_iff, String.isEmpty_iff, ← String.toList_eq_nil_iff,
    ← String.toList_eq_nil_iff, host, Text.lower, String.toList_ofList]
  exact hlow.eq_nil_iff

end TokenEndpoint.Url
