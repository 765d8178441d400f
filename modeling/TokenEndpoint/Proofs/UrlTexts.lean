import TokenEndpoint.Proofs.UrlReading
/-!
Texts of absolute URLs: a scheme, two slashes, a network location, and what stands behind it. Main
statements:

* `exists_begins` -- a URL that is read with a scheme and a network location begins with them;
* `parseChars_of_begins` -- what is read of a text that begins so.
-/

namespace TokenEndpoint.Url

/-! ## 1. What is dropped -/

/-- The characters that are kept wherever they stand. -/
def isKept (c : Char) : Bool :=
  c != '\t' && c != '\n' && c != '\r'

def kept (s : List Char) : List Char :=
  s.filter isKept

theorem kept_append (s t : List Char) : kept (s ++ t) = kept s ++ kept t :=
  List.filter_append s t

theorem kept_cons_of_kept {c : Char} (h : isKept c = true) (s : List Char) :
    kept (c :: s) = c :: kept s :=
  List.filter_cons_of_pos h

theorem mem_kept_iff {c : Char} {s : List Char} : c ∈ kept s ↔ c ∈ s ∧ isKept c = true :=
  List.mem_filter

theorem kept_of_all {s : List Char} (h : ∀ c ∈ s, isKept c = true) : kept s = s :=
  List.filter_eq_self.mpr h

theorem kept_writtenPath (segments : List (List Char)) :
    kept (writtenPath segments) = writtenPath (segments.map kept) := by
  induction segments with
  | nil => rfl
  | cons segment rest ih =>
    have hcons (s : List Char) (ss : List (List Char)) :
        writtenPath (s :: ss) = '/' :: (s ++ writtenPath ss) := rfl
    rw [hcons, kept_cons_of_kept (by decide), kept_append, ih, List.map_cons, hcons]

theorem kept_joinWith {sep : Char} (hsep : isKept sep = true) (ws : List (List Char)) :
    kept (Text.joinWith [sep] ws) = Text.joinWith [sep] (ws.map kept) := by
  induction ws with
  | nil => rfl
  | cons w rest ih =>
    cases rest with
    | nil => rfl
    | cons v vs =>
      have hkept : kept [sep] = [sep] := kept_cons_of_kept hsep []
      rw [Text.joinWith_cons_cons, kept_append, kept_append, ih, hkept]
      rfl

theorem isPartChar_eq (c : Char) : isPartChar c = (!isNetlocEnd c && isKept c) := by
  rw [isPartChar, isKept, Bool.and_assoc, Bool.and_assoc, Bool.and_assoc]

/-- What is kept of a text without the ends of a network location can stand in a part of a URL. -/
theorem all_isPartChar_kept {s : List Char} (h : ∀ c ∈ s, isNetlocEnd c = false) :
    (kept s).all isPartChar = true := by
  refine List.all_eq_true.mpr fun c hc => ?_
  obtain ⟨hmem, hkept⟩ := mem_kept_iff.mp hc
  rw [isPartChar_eq, h c hmem, hkept]
  rfl

theorem all_isPartChar_clean {s t : List Char} (h : ∀ c ∈ t, c ∈ clean s ∧ isNetlocEnd c = false) :
    t.all isPartChar = true := by
  refine List.all_eq_true.mpr fun c hc => ?_
  have hkept : isKept c = true := (List.mem_filter.mp (h c hc).1).2
  rw [isPartChar_eq, (h c hc).2, hkept]
  rfl

/-- Spaces and control characters are dropped in front of the colon only. -/
theorem clean_append_colon (s rest : List Char) :
    clean (s ++ ':' :: rest) = clean s ++ ':' :: kept rest := by
  have hdrop : (s ++ ':' :: rest).dropWhile (·.toNat ≤ 0x20) =
      s.dropWhile (·.toNat ≤ 0x20) ++ ':' :: rest := by
    have hcolon : (':' :: rest).dropWhile (·.toNat ≤ 0x20) = ':' :: rest :=
      List.dropWhile_cons_of_neg (by decide)
    rw [List.dropWhile_append, hcolon]
    split
    · next hnil => rw [List.isEmpty_iff.mp hnil, List.nil_append]
    · rfl
  show kept _ = kept _ ++ _
  rw [hdrop, kept_append, kept_cons_of_kept (by decide)]

/-! ## 2. Schemes -/

def isScheme : List Char → Bool
  | [] => false
  | c :: r => c.isAlpha && r.all isSchemeChar

theorem isSchemeChar_of_isScheme {s : List Char} (h : isScheme s = true) {c : Char} (hc : c ∈ s) :
    isSchemeChar c = true := by
  cases s with
  | nil => cases hc
  | cons first rest =>
    rw [isScheme, Bool.and_eq_true] at h
    rcases List.mem_cons.mp hc with rfl | hrest
    · simp [isSchemeChar, Char.isAlphanum, h.1]
    · exact List.all_eq_true.mp h.2 c hrest

/-- A scheme is not empty, lowered or not. -/
theorem map_toLower_ne_nil {s : List Char} (h : isScheme s = true) : s.map Char.toLower ≠ [] := by
  cases s with
  | nil => cases h
  | cons first rest => exact List.cons_ne_nil _ _

/-- What stands in front of the first colon is lowered if it is a scheme; else there is none. -/
theorem splitScheme_append {s : List Char} (h : ':' ∉ s) (rest : List Char) :
    splitScheme (s ++ ':' :: rest) =
      if isScheme s then (s.map Char.toLower, rest) else ([], s ++ ':' :: rest) := by
  rw [splitScheme, Text.cut_append h]
  cases s <;> rfl

theorem splitScheme_of_not_mem {s : List Char} (h : ':' ∉ s) : splitScheme s = ([], s) := by
  rw [splitScheme, Text.cut_of_not_mem h]
  cases s <;> rfl

/-- A scheme that is read stands in front of the first colon. -/
theorem exists_scheme_of_splitScheme {s : List Char} (h : (splitScheme s).1 ≠ []) :
    ∃ scheme, s = scheme ++ ':' :: (splitScheme s).2 ∧ ':' ∉ scheme ∧ isScheme scheme = true ∧
      (splitScheme s).1 = scheme.map Char.toLower := by
  by_cases hcolon : ':' ∈ s
  · obtain ⟨scheme, rest, rfl, hscheme⟩ := List.eq_append_cons_of_mem hcolon
    have hsplit := splitScheme_append hscheme rest
    cases his : isScheme scheme with
    | true =>
      rw [his, if_pos rfl] at hsplit
      exact ⟨scheme, by rw [hsplit], hscheme, his, by rw [hsplit]⟩
    | false =>
      rw [his, if_neg Bool.false_ne_true] at hsplit
      exact absurd (by rw [hsplit]) h
  · exact absurd (by rw [splitScheme_of_not_mem hcolon]) h

/-! ## 3. The rest of a URL -/

theorem ofList_isEmpty_iff {s : List Char} : (String.ofList s).isEmpty = false ↔ s ≠ [] := by
  rw [← Bool.not_eq_true, String.isEmpty_iff, ← String.toList_eq_nil_iff, String.toList_ofList]

/-- The URL with the given scheme and network location, and with the parts of what is behind. -/
def ofBehind (scheme netloc behind : List Char) : Url :=
  let (front, fragment) := Text.cut '#' behind
  let (path, query) := Text.cut '?' front
  let scheme := String.ofList scheme
  { scheme
    netloc := String.ofList netloc
    path := String.ofList (if schemesWithParameters.contains scheme then withoutParameters path else path)
    query := String.ofList (query.getD [])
    fragment := String.ofList (fragment.getD []) }

/-- Reading is refused for the network location alone. -/
theorem parseChars_eq_ok_iff {s : List Char} {url : Url} {netloc behind : List Char}
    (h : splitNetloc (splitScheme (clean s)).2 = (netloc, behind)) :
    parseChars s = .ok url ↔ checkBrackets netloc = .ok () ∧ checkDelimiters netloc = .ok () ∧
      url = ofBehind (splitScheme (clean s)).1 netloc behind := by
  unfold parseChars
  dsimp only
  rw [h]
  dsimp only
  constructor
  · intro hparse
    obtain ⟨⟨⟩, hbrackets, hparse⟩ := bind_eq_ok.mp hparse
    obtain ⟨⟨⟩, hdelimiters, hparse⟩ := bind_eq_ok.mp hparse
    exact ⟨hbrackets, hdelimiters, (Except.ok.inj hparse).symm⟩
  · rintro ⟨hbrackets, hdelimiters, rfl⟩
    rw [hbrackets, ok_bind, hdelimiters, ok_bind]
    rfl

theorem withoutParameters_of_not_mem {path : List Char} (h : ';' ∉ path) :
    withoutParameters path = path := by
  unfold withoutParameters
  rcases Text.cutLast_cases '/' path with ⟨-, hcut⟩ | ⟨before, after, rfl, -, hcut⟩
  · rw [hcut]
    dsimp only
    rw [Text.cut_of_not_mem h]
  · rw [hcut]
    dsimp only
    rw [Text.cut_of_not_mem fun hmem => h (List.mem_append_right _ (List.mem_cons_of_mem _ hmem))]

/-- A path, a query and perhaps a fragment behind the network location are read as written, where none
of them holds a mark of a later one. -/
theorem ofBehind_of_parts (scheme netloc : List Char) {path query rest : List Char}
    (hpath : ∀ c ∈ path, c ≠ '?' ∧ c ≠ '#' ∧ c ≠ ';') (hquery : '#' ∉ query)
    (hrest : ∀ c ∈ rest.head?, c = '#') :
    (ofBehind scheme netloc (path ++ '?' :: query ++ rest)).path = String.ofList path ∧
      (ofBehind scheme netloc (path ++ '?' :: query ++ rest)).query = String.ofList query := by
  have hfront : '#' ∉ path ++ '?' :: query := by
    rw [List.mem_append, List.mem_cons, not_or, not_or]
    exact ⟨fun hmem => (hpath _ hmem).2.1 rfl, by decide, hquery⟩
  have hcut : (Text.cut '#' (path ++ '?' :: query ++ rest)).1 = path ++ '?' :: query := by
    cases rest with
    | nil => rw [List.append_nil, Text.cut_of_not_mem hfront]
    | cons c rest =>
      cases hrest c rfl
      rw [Text.cut_append hfront]
  have hnames : '?' ∉ path := fun hmem => (hpath _ hmem).1 rfl
  have hwithout := withoutParameters_of_not_mem fun hmem => (hpath ';' hmem).2.2 rfl
  unfold ofBehind
  dsimp only
  rw [hcut, Text.cut_append hnames]
  dsimp only
  rw [hwithout, ite_self]
  exact ⟨rfl, rfl⟩

/-! ## 4. Texts of absolute URLs -/

/-- A text begins with a scheme and a network location: these two stand in front of `behind` when the
blanks that no URL keeps are left out. -/
structure Begins (text scheme netloc behind : List Char) : Prop where
  clean : clean text = scheme ++ ':' :: '/' :: '/' :: (netloc ++ behind)
  colon : ':' ∉ scheme
  scheme : isScheme scheme = true
  netloc : netloc.all isPartChar = true
  behind : ∀ c ∈ behind.head?, isNetlocEnd c = true

/-- **What is read of a text that begins with a scheme and a network location**: these two, and the parts
of what is behind them, if the network location is one. -/
theorem parseChars_of_begins {text scheme netloc behind : List Char}
    (h : Begins text scheme netloc behind) {url : Url} :
    parseChars text = .ok url ↔ checkBrackets netloc = .ok () ∧ checkDelimiters netloc = .ok () ∧
      url = ofBehind (scheme.map Char.toLower) netloc behind := by
  have hscheme := splitScheme_append h.colon ('/' :: '/' :: (netloc ++ behind))
  rw [h.scheme, if_pos rfl, ← h.clean] at hscheme
  have hsplit : splitNetloc (splitScheme (Url.clean text)).2 = (netloc, behind) := by
    rw [hscheme, splitNetloc_append h.netloc h.behind]
  rw [parseChars_eq_ok_iff hsplit, hscheme]

/-- A network location that is read stands behind two slashes, as far as the first of its ends. -/
theorem exists_behind_of_splitNetloc {s : List Char} (h : (splitNetloc s).1 ≠ []) :
    ∃ netloc behind, s = '/' :: '/' :: (netloc ++ behind) ∧ splitNetloc s = (netloc, behind) ∧
      ∀ c ∈ behind.head?, isNetlocEnd c = true := by
  unfold splitNetloc at h ⊢
  split
  · next rest =>
    refine ⟨rest.takeWhile (fun c => !isNetlocEnd c), rest.dropWhile (fun c => !isNetlocEnd c),
      by rw [List.takeWhile_append_dropWhile], List.span_eq_takeWhile_dropWhile .., fun c hc => ?_⟩
    have hhead := List.head?_dropWhile_not (fun c => !isNetlocEnd c) rest
    rw [hc] at hhead
    simpa using hhead
  · next hno =>
    split at h
    · next rest => exact absurd rfl (hno rest)
    · exact absurd rfl h

/-- **A URL that is read with a scheme and a network location begins with them.** -/
theorem exists_begins {text : List Char} {url : Url} (h : parseChars text = .ok url)
    (hscheme : url.scheme.isEmpty = false) (hnetloc : url.netloc.isEmpty = false) :
    ∃ scheme netloc behind, Begins text scheme netloc behind ∧
      url = ofBehind (scheme.map Char.toLower) netloc behind := by
  obtain ⟨-, -, hurl⟩ := (parseChars_eq_ok_iff (Prod.eta _).symm).mp h
  have hs : (splitScheme (clean text)).1 ≠ [] :=
    ofList_isEmpty_iff.mp (by rw [hurl] at hscheme; exact hscheme)
  have hn : (splitNetloc (splitScheme (clean text)).2).1 ≠ [] :=
    ofList_isEmpty_iff.mp (by rw [hurl] at hnetloc; exact hnetloc)
  obtain ⟨scheme, hclean, hcolon, his, hlower⟩ := exists_scheme_of_splitScheme hs
  obtain ⟨netloc, behind, hrest, hsplit, hbehind⟩ := exists_behind_of_splitNetloc hn
  refine ⟨scheme, netloc, behind, ⟨by rw [hclean, ← hrest, ← hclean], hcolon, his, ?_, hbehind⟩, ?_⟩
  · refine all_isPartChar_clean (s := text) fun c hc => ?_
    have hmem : c ∈ (splitNetloc (splitScheme (clean text)).2).1 := by rwa [hsplit]
    obtain ⟨hin, hend⟩ := of_mem_splitNetloc.1 hmem
    exact ⟨(suffix_splitScheme _).subset hin, hend⟩
  · rw [hurl, hlower, hsplit]

end TokenEndpoint.Url
