import TokenEndpoint.Proofs.ErrorBodies
import TokenEndpoint.Proofs.JsonRoundTrip
/-!
The claims challenge of a refusal, where the service sends it as a JSON value and not as a text. What is kept
is a text again, and it can be read. Main statement:

* `claims_reread` -- the text is ASCII, holds no blanks outside its strings, and is read as the value that the
  body holds.
-/

namespace TokenEndpoint

namespace Json

/-! ## 1. Outside of strings -/

/-- The characters of a JSON text that stand outside its strings, the quotes included; `inside` says whether
the text starts inside a string. -/
def outside : (inside : Bool) → List Char → List Char
  | _, [] => []
  | false, c :: r => c :: outside (c == '"') r
  | true, '\\' :: _ :: r => outside true r
  | true, c :: r => if c = '"' then c :: outside false r else outside true r

/-- ASCII characters of which `bare` stands outside of strings, without a blank in it. What follows them is
inside a string if they are, and outside if they are. -/
structure Passes (inside : Bool) (s bare : List Char) : Prop where
  ascii : ∀ c ∈ s, c.toNat < 0x80
  dense : ∀ c ∈ bare, Text.isBlank c = false
  outside : ∀ rest, outside inside (s ++ rest) = bare ++ outside inside rest

section Passes

variable {inside : Bool} {s s' bare bare' : List Char}

theorem Passes.nil (inside : Bool) : Passes inside [] [] where
  ascii _ hc := nomatch hc
  dense _ hc := nomatch hc
  outside _ := rfl

theorem Passes.append (h : Passes inside s bare) (h' : Passes inside s' bare') :
    Passes inside (s ++ s') (bare ++ bare') where
  ascii c hc := (List.mem_append.mp hc).elim (h.ascii c) (h'.ascii c)
  dense c hc := (List.mem_append.mp hc).elim (h.dense c) (h'.dense c)
  outside rest := by rw [List.append_assoc, h.outside, h'.outside, List.append_assoc]

/-- Outside of strings, characters that are no quotes stand for themselves. -/
theorem passes_bare (h : ∀ c ∈ s, c.toNat < 0x80 ∧ c ≠ '"' ∧ Text.isBlank c = false) :
    Passes false s s where
  ascii c hc := (h c hc).1
  dense c hc := (h c hc).2.2
  outside rest := by
    induction s with
    | nil => rfl
    | cons c s ih =>
      obtain ⟨hc, hs⟩ := List.forall_mem_cons.mp h
      rw [List.cons_append, outside, beq_false_of_ne hc.2.1, ih hs]
      rfl

/-- Inside a string, characters that neither end it nor begin an escape leave it open. -/
theorem passes_letters (h : ∀ c ∈ s, c.toNat < 0x80 ∧ c ≠ '"' ∧ c ≠ '\\') : Passes true s [] where
  ascii c hc := (h c hc).1
  dense c hc := nomatch hc
  outside rest := by
    induction s with
    | nil => rfl
    | cons c s ih =>
      obtain ⟨hc, hs⟩ := List.forall_mem_cons.mp h
      rw [List.cons_append, outside, if_neg hc.2.1, ih hs]
      exact fun x r hescape _ => hc.2.2 hescape

theorem passes_escape {c : Char} (hc : c.toNat < 0x80) : Passes true ['\\', c] [] where
  ascii := List.forall_mem_cons.mpr ⟨by decide, List.forall_mem_singleton.mpr hc⟩
  dense _ h := nomatch h
  outside rest := by
    show outside true ('\\' :: c :: rest) = _
    rw [outside]
    rfl

/-- Of a string the quotes are outside. -/
theorem passes_quoted (h : Passes true s []) : Passes false ('"' :: s ++ ['"']) ['"', '"'] where
  ascii := by
    have hquote : '"'.toNat < 0x80 := by decide
    refine List.forall_mem_cons.mpr ⟨hquote, fun c hc => ?_⟩
    rcases List.mem_append.mp hc with hs | hend
    · exact h.ascii c hs
    · rw [List.mem_singleton.mp hend]
      exact hquote
  dense := List.forall_mem_cons.mpr ⟨by decide, List.forall_mem_singleton.mpr (by decide)⟩
  outside rest := by
    show '"' :: outside true (s ++ ['"'] ++ rest) = _
    rw [List.append_assoc, h.outside]
    rfl

end Passes

/-! ## 2. Texts -/

theorem hexDigits_facts (width n : Nat) :
    ∀ c ∈ Text.hexDigits width n, c.toNat < 0x80 ∧ c ≠ '"' ∧ c ≠ '\\' := by
  have hdigit : ∀ k < 16,
      (Text.hexDigit k).toNat < 0x80 ∧ Text.hexDigit k ≠ '"' ∧ Text.hexDigit k ≠ '\\' := by
    decide
  induction width generalizing n with
  | zero => exact fun c hc => nomatch hc
  | succ width ih =>
    intro c hc
    rcases List.mem_append.mp hc with hfront | hlast
    · exact ih (n / 16) c hfront
    · rw [List.mem_singleton.mp hlast]
      exact hdigit (n % 16) (Nat.mod_lt n (by decide))

theorem passes_unitEscape (n : Nat) : Passes true (unitEscape n) [] :=
  (passes_escape (by decide)).append (passes_letters (hexDigits_facts 4 n))

theorem passes_compactChar (c : Char) : Passes true (compactChar c) [] := by
  have hwritten := charText_compactChar c
  generalize compactChar c = chars at hwritten ⊢
  cases hwritten with
  | short _ hascii _ => exact passes_escape hascii
  | itself hquote hslash hprintable =>
    exact passes_letters (List.forall_mem_singleton.mpr ⟨by omega, hquote, hslash⟩)
  | units =>
    unfold charEscape
    split
    · exact passes_unitEscape _
    · exact (passes_unitEscape _).append (passes_unitEscape _)

theorem passes_compactText (t : Text) : Passes false (compactText t) ['"', '"'] := by
  refine passes_quoted ?_
  induction t with
  | nil => exact .nil true
  | cons l t ih =>
    have hletter : Passes true (compactLetter l) [] := by
      cases l with
      | plain c => exact passes_compactChar c
      | lone n => exact passes_unitEscape _
    exact hletter.append ih

/-! ## 3. Values -/

/-- Some characters stand outside the strings of a text, blanks not among them. -/
def Dense (s : List Char) : Prop :=
  ∃ bare, Passes false s bare

theorem Dense.append {s s' : List Char} (h : Dense s) (h' : Dense s') : Dense (s ++ s') := by
  obtain ⟨bare, hs⟩ := h
  obtain ⟨bare', hs'⟩ := h'
  exact ⟨_, hs.append hs'⟩

theorem dense_of_all {s : List Char}
    (h : (s.all fun c => c.toNat < 0x80 && c != '"' && !Text.isBlank c) = true) : Dense s := by
  refine ⟨s, passes_bare fun c hc => ?_⟩
  simpa [and_assoc] using List.all_eq_true.mp h c hc

theorem dense_mark {c : Char} (hc : c ∈ [',', ':', '[', ']', '\x7b', '\x7d']) : Dense [c] := by
  simp only [List.mem_cons, List.not_mem_nil, or_false] at hc
  rcases hc with rfl | rfl | rfl | rfl | rfl | rfl <;> exact dense_of_all rfl

theorem Dense.cons {c : Char} {s : List Char} (h : Dense s)
    (hc : c ∈ [',', ':', '[', ']', '\x7b', '\x7d']) : Dense (c :: s) :=
  (dense_mark hc).append h

theorem dense_toDigits (n : Nat) : Dense (Nat.toDigits 10 n) := by
  refine ⟨_, passes_bare fun c hc => ?_⟩
  have hdigit := isDigit_toDigits c hc
  obtain ⟨hlow, hhigh⟩ := isDigit_bounds hdigit
  refine ⟨by omega, (ne_of_isDigit rfl hdigit).symm, ?_⟩
  simp [Text.isBlank, Text.blankRanges]
  omega

theorem dense_int (i : Int) : Dense (toString i).toList := by
  cases i with
  | ofNat n =>
    rw [toList_ofNat]
    exact dense_toDigits n
  | negSucc n =>
    have hsign : Dense ['-'] := dense_of_all rfl
    rw [toList_negSucc]
    exact hsign.append (dense_toDigits (n + 1))

theorem dense_items {items : List Json} (h : ∀ v ∈ items, Dense (compactChars v)) :
    Dense (compactItems items) := by
  induction items with
  | nil => exact dense_mark (by decide)
  | cons v items ih =>
    obtain ⟨hv, hitems⟩ := List.forall_mem_cons.mp h
    cases items with
    | nil =>
      rw [compactItems]
      exact hv.append (dense_mark (by decide))
    | cons w items =>
      rw [compactItems_cons_cons]
      exact hv.append ((ih hitems).cons (by decide))

theorem dense_members {members : List (Text × Json)} (h : ∀ m ∈ members, Dense (compactChars m.2)) :
    Dense (compactMembers members) := by
  induction members with
  | nil => exact dense_mark (by decide)
  | cons m members ih =>
    obtain ⟨hv, hmembers⟩ := List.forall_mem_cons.mp h
    have hname : Dense (compactText m.1) := ⟨_, passes_compactText m.1⟩
    cases members with
    | nil =>
      rw [compactMembers_singleton]
      exact hname.append ((hv.append (dense_mark (by decide))).cons (by decide))
    | cons next members =>
      rw [compactMembers_cons_cons]
      exact hname.append ((hv.append ((ih hmembers).cons (by decide))).cons (by decide))

/-- Compact text holds no blanks outside its strings. -/
theorem dense_compactChars {v : Json} (h : v.FloatFree) : Dense (compactChars v) := by
  induction h with
  | null =>
    rw [compactChars]
    exact dense_of_all rfl
  | bool b =>
    rw [compactChars]
    cases b <;> exact dense_of_all rfl
  | int i =>
    rw [compactChars]
    exact dense_int i
  | string t =>
    rw [compactChars]
    exact ⟨_, passes_compactText t⟩
  | array _ ih =>
    rw [compactChars]
    exact (dense_items ih).cons (by decide)
  | object _ ih =>
    rw [compactChars]
    exact (dense_members ih).cons (by decide)

theorem dense_compact {v : Json} (h : v.FloatFree) :
    (∀ c ∈ v.compact.toList, c.toNat < 0x80) ∧
      ∀ c ∈ outside false v.compact.toList, Text.isBlank c = false := by
  obtain ⟨bare, hbare⟩ := dense_compactChars h
  have hall := hbare.outside []
  rw [List.append_nil, outside, List.append_nil] at hall
  rw [compact, String.toList_ofList, hall]
  exact ⟨hbare.ascii, hbare.dense⟩

end Json

/-! ## 4. Claims -/

namespace ErrorDetails

variable {room : Nat} {r : Response} {members : JsonObject} {v : Json}

/-- A value that is no text is kept as compact text. -/
theorem claims_of_value (hread : Json.read room r.body = .ok (.object members))
    (hclaims : Json.member? members "claims" = some v) (hnull : v ≠ .null)
    (htext : ∀ t, v ≠ .string t) :
    ∃ details, ofResponse room r = .ok details ∧ details.claims = some (Text.ofString v.compact) := by
  have hmember : Json.member members "claims" = v := by
    rw [Json.member, hclaims]
    rfl
  refine ⟨ofMembers r members, by rw [ofResponse, membersOf_of_read hread]; rfl, ?_⟩
  show claimsText (Json.member members "claims") = _
  rw [hmember]
  cases v with
  | null => exact absurd rfl hnull
  | string t => exact absurd rfl (htext t)
  | _ => rfl

/-- A member of an object that was read is settled, and nested one level less than the object may be. -/
theorem settled_member {text name : String} (hread : Json.read room text = .ok (.object members))
    (hmember : Json.member? members name = some v) :
    v.Settled ∧ ∀ again, room ≤ again + 1 → v.Within again := by
  have hmem := Fields.mem_of_get? hmember
  constructor
  · cases Json.settled_of_read hread with
    | object _ _ hsettled => exact hsettled _ hmem
  · intro again hagain
    cases Json.within_of_read hread with
    | object hwithin => exact (hwithin _ hmem).mono (Nat.le_of_succ_le_succ hagain)

/-- **Claims that are sent as a JSON value are kept as a text that is read as the value**, if they are neither
null nor a text and no floating-point number is in them. The text is ASCII and holds no blanks outside its
strings; and it is read even where there is a level less of room than the body had. -/
theorem claims_reread (hread : Json.read room r.body = .ok (.object members))
    (hclaims : Json.member? members "claims" = some v) (hfree : v.FloatFree) (hnull : v ≠ .null)
    (htext : ∀ t, v ≠ .string t) :
    ∃ details, ofResponse room r = .ok details ∧ ∃ text : String, details.claims = some (Text.ofString text) ∧
      (∀ c ∈ text.toList, c.toNat < 0x80) ∧
      (∀ c ∈ Json.outside false text.toList, Text.isBlank c = false) ∧
      ∀ again, room ≤ again + 1 → Json.read again text = .ok v := by
  obtain ⟨hascii, hdense⟩ := Json.dense_compact hfree
  obtain ⟨hsettled, hwithin⟩ := settled_member hread hclaims
  obtain ⟨details, hdetails, hkept⟩ := claims_of_value hread hclaims hnull htext
  exact ⟨details, hdetails, v.compact, hkept, hascii, hdense, fun again hagain =>
    Json.read_compact hfree hsettled (hwithin again hagain)⟩

/-- Blanks, a repeated member, an empty name, a character that is written in two halves, a lone half, and an
empty list and object: four levels in the body, three in the text. -/
theorem claims_reread_nested :
    let r : Response :=
      { status := 400
        body :=
          "\x7b\"claims\":\x7b\"b\":1,\"\":true, \"b\":[-10, \"x y\\n𝄞\\ud800\",[],\x7b\x7d]\x7d\x7d" }
    let letters := Text.ofString "x y\n" ++ [.plain '𝄞', .lone 0]
    let v : Json :=
      .object
        [(.ofString "b", .array [.int (-10), .string letters, .array [], .object []]),
          (.ofString "", .bool true)]
    Json.read 4 r.body = .ok (.object [(.ofString "claims", v)]) ∧ v.FloatFree ∧
      ∃ details, ofResponse 4 r = .ok details ∧ ∃ text : String, details.claims = some (Text.ofString text) ∧
        Json.read 3 text = .ok v ∧
        text = "\x7b\"b\":[-10,\"x y\\n\\ud834\\udd1e\\ud800\",[],\x7b\x7d],\"\":true\x7d" := by
  intro r letters v
  have hread : Json.read 4 r.body = .ok (.object [(.ofString "claims", v)]) := by
    dsimp only [r]
    rfl
  have hitems : ∀ w ∈ [Json.int (-10), .string letters, .array [], .object []], w.FloatFree := by
    refine List.forall_mem_cons.mpr ⟨.int _, List.forall_mem_cons.mpr ⟨.string _, List.forall_mem_cons.mpr
      ⟨.array ?_, List.forall_mem_singleton.mpr (.object ?_)⟩⟩⟩
    · exact fun _ h => nomatch h
    · exact fun _ h => nomatch h
  have hfree : v.FloatFree :=
    .object (List.forall_mem_cons.mpr ⟨.array hitems, List.forall_mem_singleton.mpr (.bool true)⟩)
  have hnull : v ≠ .null := fun h => nomatch h
  have hvalue : ∀ t, v ≠ .string t := fun t h => nomatch h
  obtain ⟨details, hdetails, text, htext, -, -, hagain⟩ := claims_reread hread rfl hfree hnull hvalue
  refine ⟨hread, hfree, details, hdetails, text, htext, hagain 3 (by decide), ?_⟩
  obtain ⟨found, hfound, hkept⟩ := claims_of_value hread rfl hnull hvalue
  cases hdetails.symm.trans hfound
  have hsame : text = v.compact := Text.ofString_inj.mp (Option.some.inj (htext.symm.trans hkept))
  exact hsame.trans rfl

end ErrorDetails

end TokenEndpoint
