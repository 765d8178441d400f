import TokenEndpoint.Proofs.JsonValues
/-!
How deep a JSON text may be nested. A reader that has no room left gives up at an opening bracket, and at
nothing else: a text with no more opening brackets than there is room is read, or it has a fault. Main
statements:

* `not_tooDeep_of_openings` -- a text with no more opening brackets than there is room is not given up;
* `tooDeep_nested` -- a member in which as many brackets are opened as there is room makes a text that is
  given up, however much room there is.
-/

namespace TokenEndpoint.Json

/-! ## 1. The rest of a text -/

section Rests

variable {s rest : List Char}

theorem skipSpace_suffix (s : List Char) : skipSpace s <:+ s :=
  List.dropWhile_suffix isSpace

theorem suffix_of_readLetters {opening : List Char} {t : Text}
    (h : readLetters opening s = .ok (t, rest)) : rest <:+ s := by
  fun_induction readLetters opening s generalizing t with
  | case1 => cases h
  | case2 r =>
    cases h
    exact List.suffix_cons _ _
  | case3 => cases h
  | case4 a b c d e r u hu ih =>
    obtain ⟨⟨t, r'⟩, ht, heq⟩ := map_eq_ok.mp h
    cases heq
    exact (ih ht).trans (List.drop_suffix 6 ('\\' :: 'u' :: a :: b :: c :: d :: e :: r))
  | case5 => cases h
  | case6 => cases h
  | case7 c r hu hlone x hx ih =>
    obtain ⟨⟨t, r'⟩, ht, heq⟩ := map_eq_ok.mp h
    cases heq
    exact (ih ht).trans (List.drop_suffix 2 ('\\' :: c :: r))
  | case8 => cases h
  | case9 => cases h
  | case10 c r h1 h2 h3 h4 h5 h6 ih =>
    obtain ⟨⟨t, r'⟩, ht, heq⟩ := map_eq_ok.mp h
    cases heq
    exact (ih ht).trans (List.suffix_cons c r)

theorem suffix_of_readString {t : Text} (h : readString s = .ok (t, rest)) : rest <:+ s := by
  obtain ⟨⟨letters, r⟩, hletters, heq⟩ := map_eq_ok.mp h
  cases heq
  exact suffix_of_readLetters hletters

theorem takeDigits_suffix (s : List Char) : (takeDigits s).2 <:+ s := by
  rw [takeDigits_eq]
  exact List.dropWhile_suffix Char.isDigit

theorem suffix_of_integerPart {whole : List Char} (h : integerPart? s = some (whole, rest)) :
    rest <:+ s := by
  unfold integerPart? at h
  split at h
  · cases h
    exact List.suffix_cons _ _
  · rw [takeDigits_eq] at h
    split at h
    · cases h
    · rw [Option.some.injEq, Prod.mk.injEq] at h
      exact h.2 ▸ List.dropWhile_suffix Char.isDigit

theorem fractionPart_suffix (s : List Char) : (fractionPart s).2 <:+ s := by
  unfold fractionPart
  split
  · next r =>
    have hdigits := takeDigits_suffix r
    split
    · exact List.suffix_rfl
    · exact hdigits.trans (List.suffix_cons _ _)
  · exact List.suffix_rfl

theorem exponentSign_suffix (s : List Char) : (exponentSign s).2 <:+ s := by
  unfold exponentSign
  split
  · exact List.suffix_cons _ _
  · exact List.suffix_cons _ _
  · exact List.suffix_rfl

theorem exponentPart_suffix (s : List Char) : (exponentPart s).2 <:+ s := by
  unfold exponentPart
  split
  · next c r =>
    split
    · have hsign := exponentSign_suffix r
      have hdigits := takeDigits_suffix (exponentSign r).2
      dsimp only
      split
      · exact List.suffix_rfl
      · next digits rest _ heq =>
        rw [heq] at hdigits
        exact (hdigits.trans hsign).trans (List.suffix_cons c r)
    · exact List.suffix_rfl
  · exact List.suffix_rfl

theorem suffix_of_readNumber {negative : Bool} {v : Json}
    (h : readNumber? negative s = some (.ok (v, rest))) : rest <:+ s := by
  obtain ⟨⟨whole, r⟩, hwhole, hread⟩ := Option.map_eq_some_iff.mp h
  have hrest : (exponentPart (fractionPart r).2).2 <:+ s :=
    ((exponentPart_suffix _).trans (fractionPart_suffix r)).trans (suffix_of_integerPart hwhole)
  dsimp only at hread
  split at hread
  · split at hread
    · cases hread
    · cases hread
      exact hrest
  · cases hread
    exact hrest

theorem suffix_of_after {word : List Char} (h : after? word s = some rest) : rest <:+ s := by
  induction word generalizing s with
  | nil =>
    cases h
    exact List.suffix_rfl
  | cons w ws ih =>
    cases s with
    | nil => cases h
    | cons c r =>
      rw [after?] at h
      split at h
      · exact (ih h).trans (List.suffix_cons c r)
      · cases h

theorem suffix_of_readWord {v : Json} (h : readWord? s = some (v, rest)) : rest <:+ s := by
  obtain ⟨⟨word, w⟩, -, hfound⟩ := List.exists_of_findSome?_eq_some h
  obtain ⟨r, hr, heq⟩ := Option.map_eq_some_iff.mp hfound
  cases heq
  exact suffix_of_after hr

theorem suffix_of_readScalar {v : Json} (h : readScalar s = .ok (v, rest)) : rest <:+ s := by
  rcases readScalar_cases s with ⟨found, hword, hfound⟩ | ⟨negative, r, hr, hnumber⟩ | hstop
  · cases h.symm.trans hfound
    exact suffix_of_readWord hword
  · exact (suffix_of_readNumber (hnumber.trans (congrArg some h))).trans hr
  · cases h.symm.trans hstop

end Rests

/-! ## 2. Giving up -/

section GivingUp

variable {container : Container} {s : List Char}

theorem readString_ne_tooDeep : readString s ≠ .error (.tooDeep container) := by
  have hletters (opening : List Char) : readLetters opening s ≠ .error (.tooDeep container) := by
    fun_induction readLetters opening s with
    | case4 _ _ _ _ _ _ _ _ ih => exact fun h => ih (map_eq_error.mp h)
    | case7 _ _ _ _ _ _ ih => exact fun h => ih (map_eq_error.mp h)
    | case10 _ _ _ _ _ _ _ _ ih => exact fun h => ih (map_eq_error.mp h)
    | _ => exact fun h => nomatch h
  exact fun h => hletters _ (map_eq_error.mp h)

theorem readNumber_ne_tooDeep {negative : Bool} :
    readNumber? negative s ≠ some (.error (.tooDeep container)) := by
  intro h
  obtain ⟨⟨whole, r⟩, -, hread⟩ := Option.map_eq_some_iff.mp h
  dsimp only at hread
  split at hread
  · split at hread
    · cases hread
    · cases hread
  · cases hread

theorem readScalar_ne_tooDeep : readScalar s ≠ .error (.tooDeep container) := by
  intro h
  rcases readScalar_cases s with ⟨found, -, hfound⟩ | ⟨negative, r, -, hnumber⟩ | hstop
  · cases h.symm.trans hfound
  · exact readNumber_ne_tooDeep (hnumber.trans (congrArg some h))
  · cases h.symm.trans hstop

end GivingUp

section Containers

variable {read : List Char → Except Stop (Json × List Char)} {budget : Nat} {s rest : List Char}
  (hread : ∀ {s v rest}, read s = .ok (v, rest) → rest <:+ s)
include hread

theorem suffix_of_readItems {items : List Json} (h : readItems read budget s = .ok (items, rest)) :
    rest <:+ s := by
  induction budget generalizing s items with
  | zero => cases h
  | succ budget ih =>
    obtain ⟨v, r, hv, hend⟩ := readItems_eq_ok h
    have hr : skipSpace r <:+ s := (skipSpace_suffix r).trans (hread hv)
    rcases hend with ⟨hclose, -⟩ | ⟨less, next, more, hless, hcomma, hmore, -⟩
    · exact (hclose ▸ List.suffix_cons _ _).trans hr
    · cases hless
      have hnext : next <:+ s := (hcomma ▸ List.suffix_cons _ _).trans hr
      exact ((ih hmore).trans (skipSpace_suffix next)).trans hnext

theorem suffix_of_readMembers {members : List (Text × Json)}
    (h : readMembers read budget s = .ok (members, rest)) : rest <:+ s := by
  induction budget generalizing s members with
  | zero => cases h
  | succ budget ih =>
    obtain ⟨start, key, r, value, v, r', rfl, hkey, hcolon, hv, hend⟩ := readMembers_eq_ok h
    have hvalue : value <:+ start :=
      ((hcolon ▸ List.suffix_cons _ _).trans (skipSpace_suffix r)).trans (suffix_of_readString hkey)
    have hr : skipSpace r' <:+ '"' :: start :=
      (((skipSpace_suffix r').trans (hread hv)).trans (skipSpace_suffix value)).trans
        (hvalue.trans (List.suffix_cons _ _))
    rcases hend with ⟨hclose, -⟩ | ⟨less, next, more, hless, hcomma, hmore, -⟩
    · exact (hclose ▸ List.suffix_cons _ _).trans hr
    · cases hless
      have hnext : next <:+ '"' :: start := (hcomma ▸ List.suffix_cons _ _).trans hr
      exact ((ih hmore).trans (skipSpace_suffix next)).trans hnext

/-- A list is given up where one of its items is. -/
theorem exists_tooDeep_of_readItems {container : Container}
    (h : readItems read budget s = .error (.tooDeep container)) :
    ∃ inner, inner <:+ s ∧ read inner = .error (.tooDeep container) := by
  induction budget generalizing s with
  | zero => cases h
  | succ budget ih =>
    rw [readItems] at h
    rcases bind_eq_error.mp h with hfirst | ⟨⟨v, r⟩, hv, h⟩
    · exact ⟨s, List.suffix_rfl, hfirst⟩
    · have hr : skipSpace r <:+ s := (skipSpace_suffix r).trans (hread hv)
      dsimp only at h
      split at h
      · cases h
      · next next heq =>
        rcases bind_eq_error.mp h with hmore | ⟨found, -, h⟩
        · obtain ⟨inner, hinner, hdeep⟩ := ih hmore
          rw [heq] at hr
          exact ⟨inner, ((hinner.trans (skipSpace_suffix next)).trans (List.suffix_cons _ _)).trans hr,
            hdeep⟩
        · cases h
      · cases h

/-- An object is given up where one of its values is. -/
theorem exists_tooDeep_of_readMembers {container : Container}
    (h : readMembers read budget s = .error (.tooDeep container)) :
    ∃ inner, inner <:+ s ∧ read inner = .error (.tooDeep container) := by
  induction budget generalizing s with
  | zero => cases h
  | succ budget ih =>
    rw [readMembers.eq_def] at h
    dsimp only at h
    split at h
    · next start =>
      rcases bind_eq_error.mp h with hkey | ⟨⟨key, r⟩, hkey, h⟩
      · exact absurd hkey readString_ne_tooDeep
      have hr : skipSpace r <:+ start := (skipSpace_suffix r).trans (suffix_of_readString hkey)
      dsimp only at h
      split at h
      · next value hvalue =>
        rw [hvalue] at hr
        have hstart : skipSpace value <:+ '"' :: start :=
          ((skipSpace_suffix value).trans (List.suffix_cons _ _)).trans
            (hr.trans (List.suffix_cons _ _))
        rcases bind_eq_error.mp h with hfirst | ⟨⟨v, r'⟩, hv, h⟩
        · exact ⟨_, hstart, hfirst⟩
        have hr' : skipSpace r' <:+ '"' :: start :=
          ((skipSpace_suffix r').trans (hread hv)).trans hstart
        dsimp only at h
        split at h
        · cases h
        · next next heq =>
          rcases bind_eq_error.mp h with hmore | ⟨found, -, h⟩
          · obtain ⟨inner, hinner, hdeep⟩ := ih hmore
            rw [heq] at hr'
            exact ⟨inner,
              ((hinner.trans (skipSpace_suffix next)).trans (List.suffix_cons _ _)).trans hr', hdeep⟩
          · cases h
        · cases h
      · cases h
    · cases h

theorem suffix_of_readInside {container : Container} {v : Json}
    (h : readInside read container s = .ok (v, rest)) : rest <:+ s := by
  have hspace := skipSpace_suffix s
  cases container with
  | array =>
    rw [readInside] at h
    split at h
    · next hclose =>
      cases h
      exact (hclose ▸ List.suffix_cons _ _).trans hspace
    · obtain ⟨⟨items, r⟩, hitems, heq⟩ := map_eq_ok.mp h
      cases heq
      exact (suffix_of_readItems hread hitems).trans hspace
  | object =>
    rw [readInside] at h
    split at h
    · next hclose =>
      cases h
      exact (hclose ▸ List.suffix_cons _ _).trans hspace
    · obtain ⟨⟨members, r⟩, hmembers, heq⟩ := map_eq_ok.mp h
      cases heq
      exact (suffix_of_readMembers hread hmembers).trans hspace

theorem exists_tooDeep_of_readInside {opened container : Container}
    (h : readInside read opened s = .error (.tooDeep container)) :
    ∃ inner, inner <:+ s ∧ read inner = .error (.tooDeep container) := by
  have hspace := skipSpace_suffix s
  cases opened with
  | array =>
    rw [readInside] at h
    split at h
    · cases h
    · obtain ⟨inner, hinner, hdeep⟩ := exists_tooDeep_of_readItems hread (map_eq_error.mp h)
      exact ⟨inner, hinner.trans hspace, hdeep⟩
  | object =>
    rw [readInside] at h
    split at h
    · cases h
    · obtain ⟨inner, hinner, hdeep⟩ := exists_tooDeep_of_readMembers hread (map_eq_error.mp h)
      exact ⟨inner, hinner.trans hspace, hdeep⟩

end Containers

/-! ## 3. Opening brackets -/

/-- How many opening brackets stand in a text, those in strings counted too. -/
def openings (s : List Char) : Nat :=
  s.countP fun c => c == '[' || c == '\x7b'

theorem openings_le {inner s : List Char} (h : inner <:+ s) : openings inner ≤ openings s :=
  h.sublist.countP_le

section Values

variable {inside : Container → List Char → Except Stop (Json × List Char)} {s rest : List Char}

theorem suffix_of_readOpening {v : Json}
    (hinside : ∀ {container s v rest}, inside container s = .ok (v, rest) → rest <:+ s)
    (h : readOpening inside s = .ok (v, rest)) : rest <:+ s := by
  unfold readOpening at h
  split at h
  · obtain ⟨⟨t, r⟩, ht, heq⟩ := map_eq_ok.mp h
    cases heq
    exact (suffix_of_readString ht).trans (List.suffix_cons _ _)
  · exact (hinside h).trans (List.suffix_cons _ _)
  · exact (hinside h).trans (List.suffix_cons _ _)
  · exact suffix_of_readScalar h

/-- A value is given up behind its opening bracket. -/
theorem exists_tooDeep_of_readOpening {container : Container}
    (h : readOpening inside s = .error (.tooDeep container)) :
    ∃ opened r, inside opened r = .error (.tooDeep container) ∧ openings s = openings r + 1 := by
  unfold readOpening at h
  split at h
  · exact absurd (map_eq_error.mp h) readString_ne_tooDeep
  · exact ⟨_, _, h, List.countP_cons_of_pos rfl⟩
  · exact ⟨_, _, h, List.countP_cons_of_pos rfl⟩
  · exact absurd h readScalar_ne_tooDeep

/-- What is left after a value is the end of the text. -/
theorem suffix_of_readValue {room : Nat} {v : Json} (h : readValue room s = .ok (v, rest)) :
    rest <:+ s := by
  induction room generalizing s v rest with
  | zero =>
    rw [readValue] at h
    exact suffix_of_readOpening (fun {_ _ _ _} hinside => by cases hinside) h
  | succ room ih =>
    rw [readValue] at h
    exact suffix_of_readOpening (suffix_of_readInside ih) h

/-- Each level of nesting takes an opening bracket. -/
theorem lt_openings_of_readValue {room : Nat} {container : Container}
    (h : readValue room s = .error (.tooDeep container)) : room < openings s := by
  induction room generalizing s with
  | zero =>
    rw [readValue] at h
    obtain ⟨opened, r, -, hcount⟩ := exists_tooDeep_of_readOpening h
    omega
  | succ room ih =>
    rw [readValue] at h
    obtain ⟨opened, r, hinside, hcount⟩ := exists_tooDeep_of_readOpening h
    obtain ⟨inner, hinner, hdeep⟩ := exists_tooDeep_of_readInside suffix_of_readValue hinside
    have hroom := ih hdeep
    have hle := openings_le hinner
    omega

end Values

/-! ## 4. Whole texts -/

/-- A text that a reader with so much room gives up. -/
def TooDeep (room : Nat) (s : List Char) : Prop :=
  ∃ container, readChars room s = .error (.tooDeep container)

/-- **A text with no more opening brackets than there is room is not given up.** -/
theorem not_tooDeep_of_openings {room : Nat} {s : List Char} (h : openings s ≤ room) :
    ¬ TooDeep room s := by
  rintro ⟨container, hread⟩
  refine Nat.not_lt.mpr h ?_
  obtain ⟨stopped, hall, heq⟩ := mapError_eq_error.mp hread
  cases stopped with
  | here problem left => cases heq
  | tooManyDigits count => cases heq
  | tooDeep found =>
    unfold readAll at hall
    split at hall
    · cases hall
    · rcases bind_eq_error.mp hall with hvalue | ⟨⟨v, r⟩, -, hend⟩
      · exact Nat.lt_of_lt_of_le (lt_openings_of_readValue hvalue) (openings_le (skipSpace_suffix s))
      · dsimp only at hend
        split at hend
        · cases hend
        · cases hend

/-- The start of an object whose member opens so many lists, one inside another. -/
def nested (count : Nat) : List Char :=
  '\x7b' :: '"' :: 'x' :: '"' :: ':' :: List.replicate count '['

theorem nested_add (count more : Nat) :
    nested (count + more) = nested count ++ List.replicate more '[' := by
  rw [nested, ← List.replicate_append_replicate]
  rfl

theorem readValue_brackets (room : Nat) (rest : List Char) :
    readValue room (List.replicate (room + 1) '[' ++ rest) = .error (.tooDeep .array) := by
  induction room with
  | zero => rfl
  | succ room ih =>
    have hcons : List.replicate (room + 1 + 1) '[' ++ rest =
        '[' :: '[' :: (List.replicate room '[' ++ rest) := rfl
    have hinner : '[' :: (List.replicate room '[' ++ rest) = List.replicate (room + 1) '[' ++ rest := rfl
    rw [hcons]
    show (readItems (readValue room) _ ('[' :: (List.replicate room '[' ++ rest))).map _ = _
    rw [hinner, readItems, ih]
    rfl

theorem readAll_nested (room : Nat) (rest : List Char) :
    readAll (room + 1) (nested (room + 1) ++ rest) = .error (.tooDeep .array) := by
  have hvalue := readValue_brackets room rest
  have hmembers (budget : Nat) : readMembers (readValue room) (budget + 1)
      ('"' :: 'x' :: '"' :: ':' :: (List.replicate (room + 1) '[' ++ rest)) =
      .error (.tooDeep .array) := by
    show (readValue room (List.replicate (room + 1) '[' ++ rest) >>= _) = _
    rw [hvalue]
    rfl
  show ((readMembers (readValue room) _
    ('"' :: 'x' :: '"' :: ':' :: (List.replicate (room + 1) '[' ++ rest))).map _ >>= _) = _
  rw [hmembers]
  rfl

/-- **As many brackets in a member as there is room, and the text is given up**, whatever comes after
them: the object takes room too. -/
theorem tooDeep_nested {room count : Nat} (h : room ≤ count) (rest : List Char) :
    TooDeep room (nested count ++ rest) := by
  obtain ⟨more, rfl⟩ := Nat.exists_eq_add_of_le h
  rw [nested_add, List.append_assoc]
  cases room with
  | zero => exact ⟨.object, rfl⟩
  | succ room => exact ⟨.array, by rw [readChars, readAll_nested]; rfl⟩

end TokenEndpoint.Json
