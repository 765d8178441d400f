import TokenEndpoint.Proofs.Pieces
import TokenEndpoint.Proofs.Utf8RoundTrip
import TokenEndpoint.Text.Form
/-!
Reading a form gives back what was written. It goes in two steps: a name or a value is written without
either separator, and is read back by itself (`decodeText_encodeText`); so cutting at the separators
undoes the joining. Main statements:

* `all_isAscii_encodePairs` -- a form is written in ASCII;
* `decodePairs_encodePairs` -- the pairs of a form are read back in their order;
* `group_pairs` -- pairs that were taken from fields are grouped to these fields again, without the
  fields that have no value.
-/

namespace TokenEndpoint

namespace Form

/-! ## 1. One octet -/

def isAscii (c : Char) : Bool :=
  c.toNat < 0x80

/-- A character that a name or a value is written with: ASCII, and neither of the separators. -/
def isComponentChar (c : Char) : Bool :=
  isAscii c && c != '&' && c != '='

theorem isAscii_of_isComponentChar {c : Char} (h : isComponentChar c = true) : isAscii c = true := by
  rw [isComponentChar, Bool.and_eq_true, Bool.and_eq_true] at h
  exact h.1.1

/-- What a character of a form stands for before percent-decoding. -/
def plusToSpace (c : Char) : Char :=
  if c = '+' then ' ' else c

theorem hexDigit_facts : ∀ n < 16, hexValue? (hexDigit n) = some n ∧
    plusToSpace (hexDigit n) = hexDigit n ∧ isComponentChar (hexDigit n) = true := by
  decide

theorem unreserved_facts : ∀ n < 256, isUnreserved (.ofNat n) = true →
    Char.ofNat n ≠ '%' ∧ plusToSpace (Char.ofNat n) = Char.ofNat n ∧
      (Char.ofNat n).toNat = n ∧ isComponentChar (Char.ofNat n) = true := by
  decide +kernel

/-- An octet is written in characters of a name or a value. -/
theorem all_encodeOctet (b : UInt8) : (encodeOctet b).all isComponentChar = true := by
  have hb : b.toNat < 256 := b.toNat_lt
  unfold encodeOctet
  split
  · next hu =>
    have hfacts := unreserved_facts b.toNat hb (by rw [UInt8.ofNat_toNat]; exact hu)
    rw [List.all_cons, hfacts.2.2.2]
    rfl
  · split
    · decide
    · have hhigh := (hexDigit_facts (b.toNat / 16) (by omega)).2.2
      have hlow := (hexDigit_facts (b.toNat % 16) (by omega)).2.2
      rw [List.all_cons, List.all_cons, List.all_cons, hhigh, hlow]
      decide

/-- A character that does not begin an escape stands for itself. -/
theorem octets_cons_of_ne {c : Char} (h : c ≠ '%') (s : List Char) :
    octets (c :: s) = .ofNat c.toNat :: octets s := by
  rw [octets]
  intro a b rest hc
  exact absurd hc h

/-- **A written octet is read back.** -/
theorem octets_encodeOctet (b : UInt8) (s : List Char) :
    octets ((encodeOctet b).map plusToSpace ++ s) = b :: octets s := by
  have hb : b.toNat < 256 := b.toNat_lt
  unfold encodeOctet
  split
  · next hu =>
    obtain ⟨hpercent, hplus, hnat, -⟩ :=
      unreserved_facts b.toNat hb (by rw [UInt8.ofNat_toNat]; exact hu)
    rw [List.map_singleton, hplus, List.singleton_append, octets_cons_of_ne hpercent, hnat,
      UInt8.ofNat_toNat]
  · split
    · next hspace =>
      rw [hspace]
      exact octets_cons_of_ne (by decide) s
    · obtain ⟨hhigh, hhighplus, -⟩ := hexDigit_facts (b.toNat / 16) (by omega)
      obtain ⟨hlow, hlowplus, -⟩ := hexDigit_facts (b.toNat % 16) (by omega)
      have hvalue : b.toNat / 16 * 16 + b.toNat % 16 = b.toNat := by omega
      rw [List.map_cons, List.map_cons, List.map_singleton, hhighplus, hlowplus]
      show octets ('%' :: hexDigit (b.toNat / 16) :: hexDigit (b.toNat % 16) :: s) = b :: octets s
      rw [octets, hhigh, hlow]
      dsimp only
      rw [hvalue, UInt8.ofNat_toNat]

/-! ## 2. A name or a value -/

theorem octets_flatMap (bytes : List UInt8) :
    octets ((bytes.flatMap encodeOctet).map plusToSpace) = bytes := by
  induction bytes with
  | nil => rfl
  | cons b rest ih => rw [List.flatMap_cons, List.map_append, octets_encodeOctet, ih]

theorem all_encodeText (s : List Char) : (encodeText s).all isComponentChar = true := by
  rw [List.all_eq_true]
  intro c hc
  obtain ⟨b, -, hb⟩ := List.mem_flatMap.mp hc
  exact List.all_eq_true.mp (all_encodeOctet b) c hb

/-- A separator does not come into the text of a name or a value. -/
theorem not_mem_encodeText {sep : Char} (h : isComponentChar sep = false) (s : List Char) :
    sep ∉ encodeText s := by
  intro hmem
  have htrue := List.all_eq_true.mp (all_encodeText s) sep hmem
  exact Bool.false_ne_true (h.symm.trans htrue)

/-- A text in ASCII is one run. -/
theorem decodeRuns_of_ascii {s : List Char} (h : s.all isAscii = true) (run : List Char) :
    decodeRuns run s = Utf8.decodeLossy (octets (run.reverse ++ s)) := by
  induction s generalizing run with
  | nil => rw [decodeRuns, List.append_nil]
  | cons c rest ih =>
    rw [List.all_cons, Bool.and_eq_true] at h
    have hc : c.toNat < 0x80 := of_decide_eq_true h.1
    rw [decodeRuns, if_pos hc, ih h.2, List.reverse_cons, List.append_assoc, List.singleton_append]

theorem isAscii_plusToSpace {c : Char} (h : isComponentChar c = true) :
    isAscii (plusToSpace c) = true := by
  unfold plusToSpace
  split
  · decide
  · exact isAscii_of_isComponentChar h

/-- **A name or a value is read back as it was written.** -/
theorem decodeText_encodeText (s : String) : decodeText (encodeText s.toList) = s := by
  have hascii : ((encodeText s.toList).map plusToSpace).all isAscii = true := by
    rw [List.all_map, List.all_eq_true]
    intro c hc
    exact isAscii_plusToSpace (List.all_eq_true.mp (all_encodeText s.toList) c hc)
  have hruns : decodeRuns [] ((encodeText s.toList).map plusToSpace) = s.toList := by
    rw [decodeRuns_of_ascii hascii]
    show Utf8.decodeLossy (octets ((encodeText s.toList).map plusToSpace)) = s.toList
    rw [encodeText, octets_flatMap, Utf8.decodeLossy_encode]
  rw [decodeText]
  show String.ofList (decodeRuns [] ((encodeText s.toList).map plusToSpace)) = s
  rw [hruns, String.ofList_toList]

/-! ## 3. Pairs -/

theorem decodePair_encodePair (name value : String) :
    decodePair (encodePair name value) = (name, value) := by
  have hcut : Text.cut '=' (encodePair name value) =
      (encodeText name.toList, some (encodeText value.toList)) :=
    Text.cut_append (not_mem_encodeText (by decide) _) _
  rw [decodePair, hcut]
  show (decodeText (encodeText name.toList), decodeText (encodeText value.toList)) = (name, value)
  rw [decodeText_encodeText, decodeText_encodeText]

theorem not_mem_encodePair (name value : String) : '&' ∉ encodePair name value := by
  rw [encodePair, List.mem_append, List.mem_cons]
  rintro (h | h | h)
  · exact not_mem_encodeText (by decide) _ h
  · exact absurd h (by decide)
  · exact not_mem_encodeText (by decide) _ h

/-- A pair is written in at least one character: its equals sign. -/
theorem isEmpty_encodePair (name value : String) : (encodePair name value).isEmpty = false := by
  rw [encodePair, List.isEmpty_eq_false_iff]
  exact List.append_ne_nil_of_right_ne_nil _ (List.cons_ne_nil _ _)

theorem all_isAscii_encodePair (name value : String) :
    (encodePair name value).all isAscii = true := by
  have htext : ∀ s : List Char, (encodeText s).all isAscii = true := by
    intro s
    rw [List.all_eq_true]
    intro c hc
    exact isAscii_of_isComponentChar (List.all_eq_true.mp (all_encodeText s) c hc)
  rw [encodePair, List.all_append, List.all_cons, htext, htext]
  decide

/-- **A form is written in ASCII.** -/
theorem all_isAscii_encodePairs (pairs : List (String × String)) :
    (encodePairs pairs).toList.all isAscii = true := by
  rw [encodePairs, String.toList_ofList]
  refine Text.all_joinWith (by decide) fun w hw => ?_
  obtain ⟨⟨name, value⟩, -, rfl⟩ := List.mem_map.mp hw
  exact all_isAscii_encodePair name value

/-- **The pairs of a form are read back**, in their order and with repetitions. -/
theorem decodePairs_encodePairs (pairs : List (String × String)) :
    decodePairs (encodePairs pairs) = pairs := by
  let written : List (List Char) := pairs.map fun pair => encodePair pair.1 pair.2
  have hwritten : ∀ w ∈ written, '&' ∉ w ∧ w.isEmpty = false := by
    intro w hw
    obtain ⟨⟨name, value⟩, -, rfl⟩ := List.mem_map.mp hw
    exact ⟨not_mem_encodePair name value, isEmpty_encodePair name value⟩
  have hfilter : written.filter (fun piece => !piece.isEmpty) = written :=
    List.filter_eq_self.mpr fun w hw => by rw [(hwritten w hw).2]; rfl
  by_cases hne : pairs = []
  · -- a form without pairs is one empty piece
    rw [hne]
    rfl
  · have hsplit : Text.splitOn '&' (encodePairs pairs).toList = written := by
      rw [encodePairs, String.toList_ofList]
      exact Text.splitOn_joinWith (fun h => hne (List.map_eq_nil_iff.mp h))
        fun w hw => (hwritten w hw).1
    rw [decodePairs, hsplit, hfilter, List.map_map]
    refine List.map_id'' (fun p => ?_) pairs
    exact decodePair_encodePair p.1 p.2

/-! ## 4. Values under their names -/

/-- The fields after some pairs, each of which adds a value to its name. -/
def gather (fields : Fields String (List String)) (pairs : List (String × String)) :
    Fields String (List String) :=
  pairs.foldl (fun fields (name, value) => addValue fields name value) fields

theorem gather_append (fields : Fields String (List String)) (xs ys : List (String × String)) :
    gather fields (xs ++ ys) = gather (gather fields xs) ys :=
  List.foldl_append

/-- More values of the last name stand after those that it has. -/
theorem gather_last {front : Fields String (List String)} {name : String} (h : name ∉ front.names)
    (found values : List String) :
    gather (front ++ [(name, found)]) (values.map fun value => (name, value)) =
      front ++ [(name, found ++ values)] := by
  induction values generalizing found with
  | nil => rw [List.append_nil]; rfl
  | cons v rest ih =>
    have hadd : addValue (front ++ [(name, found)]) name v = front ++ [(name, found ++ [v])] := by
      rw [addValue, Fields.get?_append_of_not_mem h, Fields.set_append_of_not_mem h]
      simp [Fields.get?, Fields.set]
    rw [List.map_cons]
    show gather (addValue (front ++ [(name, found)]) name v) _ = _
    rw [hadd, ih, List.append_assoc, List.singleton_append]

/-- The values of a new name come last; without a value the name does not come at all. -/
theorem gather_new {front : Fields String (List String)} {name : String} (h : name ∉ front.names)
    (values : List String) :
    gather front (values.map fun value => (name, value)) =
      front ++ if values.isEmpty then [] else [(name, values)] := by
  cases values with
  | nil => exact (List.append_nil front).symm
  | cons v rest =>
    have hadd : addValue front name v = front ++ [(name, [v])] := by
      have hget := Fields.get?_append_of_not_mem h []
      have hset := Fields.set_append_of_not_mem h [v] []
      rw [List.append_nil] at hget hset
      rw [addValue, hget, Fields.get?, Option.getD_none, List.nil_append, hset]
      rfl
    show gather (addValue front name v) (rest.map fun value => (name, value)) = _
    rw [hadd, gather_last h]
    rfl

/-- **Pairs that were taken from fields are grouped to these fields again**, in their order, without
the fields that have no value. -/
theorem group_pairs {fields : Fields String (List String)} (h : fields.names.Nodup) :
    group (fields.flatMap fun (name, values) => values.map fun value => (name, value)) =
      fields.filter fun field => !field.2.isEmpty := by
  -- over the fields that have been grouped already, which stand in front
  suffices hgather : ∀ front : Fields String (List String), (front.names ++ fields.names).Nodup →
      gather front (fields.flatMap fun (name, values) => values.map fun value => (name, value)) =
        front ++ fields.filter fun field => !field.2.isEmpty by
    exact hgather [] h
  clear h
  induction fields with
  | nil => exact fun front _ => (List.append_nil front).symm
  | cons field rest ih =>
    obtain ⟨name, values⟩ := field
    intro front hnodup
    have hnew : name ∉ front.names := by
      intro hmem
      exact (List.nodup_append.mp hnodup).2.2 name hmem name List.mem_cons_self rfl
    rw [List.flatMap_cons, gather_append, gather_new hnew]
    cases values with
    | nil =>
      have hrest : (front.names ++ Fields.names rest).Nodup :=
        hnodup.sublist ((List.sublist_cons_self name _).append_left front.names)
      rw [List.isEmpty_nil, if_pos rfl, List.append_nil, ih front hrest]
      rfl
    | cons v vs =>
      have hrest : (Fields.names (front ++ [(name, v :: vs)]) ++ Fields.names rest).Nodup := by
        rw [Fields.names, List.map_append, List.append_assoc]
        exact hnodup
      rw [List.isEmpty_cons, if_neg Bool.false_ne_true, ih _ hrest, List.append_assoc]
      rfl

end Form

end TokenEndpoint
