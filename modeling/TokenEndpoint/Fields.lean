/-!
Ordered fields: pairs of a name and a value, in the order in which the names were first set. Setting
a name again keeps its place.
-/

namespace TokenEndpoint

abbrev Fields (κ α : Type) := List (κ × α)

namespace Fields

variable {κ α : Type} [DecidableEq κ]

def get? (name : κ) : Fields κ α → Option α
  | [] => none
  | (k, v) :: r => if k = name then some v else get? name r

/-- The fields with `name` set to `value`. -/
def set (name : κ) (value : α) : Fields κ α → Fields κ α
  | [] => [(name, value)]
  | (k, v) :: r => if k = name then (k, value) :: r else (k, v) :: set name value r

/-- Sets every field of a list in turn. -/
def setAll (fields : Fields κ α) (more : List (κ × α)) : Fields κ α :=
  more.foldl (fun acc (k, v) => acc.set k v) fields

/-- A list of pairs as fields: a repeated name keeps its first place and its last value. -/
def ofPairs (pairs : List (κ × α)) : Fields κ α :=
  setAll [] pairs

def names (fields : Fields κ α) : List κ :=
  fields.map (·.1)

omit [DecidableEq κ] in
theorem ne_of_not_mem_names {name : κ} {fields : Fields κ α} (h : name ∉ fields.names) {field : κ × α}
    (hfield : field ∈ fields) : field.1 ≠ name := by
  rintro rfl
  exact h (List.mem_map_of_mem hfield)

theorem get?_set_self (name : κ) (value : α) (fields : Fields κ α) :
    (fields.set name value).get? name = some value := by
  induction fields with
  | nil => simp [set, get?]
  | cons p r ih =>
    obtain ⟨k, v⟩ := p
    by_cases h : k = name <;> simp [set, get?, h, ih]

theorem get?_set_of_ne {name other : κ} (hne : other ≠ name) (value : α) (fields : Fields κ α) :
    (fields.set name value).get? other = fields.get? other := by
  induction fields with
  | nil => simp [set, get?, Ne.symm hne]
  | cons p r ih =>
    obtain ⟨k, v⟩ := p
    by_cases h : k = name
    · subst h; simp [set, get?, Ne.symm hne]
    · by_cases ho : k = other
      · subst ho; simp [set, get?, hne]
      · simp [set, get?, h, ho, ih]

/-- Setting a name that is there keeps the names; a new one comes last. -/
theorem names_set (name : κ) (value : α) (fields : Fields κ α) :
    (fields.set name value).names =
      if name ∈ fields.names then fields.names else fields.names ++ [name] := by
  induction fields with
  | nil => simp [set, names]
  | cons p r ih =>
    obtain ⟨k, v⟩ := p
    by_cases h : k = name
    · simp [set, names, h]
    · by_cases hm : name ∈ names r <;>
        simp_all [set, names, Ne.symm h]

theorem mem_names_set {name other : κ} {value : α} {fields : Fields κ α} :
    other ∈ (fields.set name value).names ↔ other = name ∨ other ∈ fields.names := by
  rw [names_set]
  split
  · next hmem =>
    constructor
    · exact .inr
    · rintro (rfl | hother)
      · exact hmem
      · exact hother
  · rw [List.mem_append, List.mem_singleton, or_comm]

/-- Setting one name does not bring in another. -/
theorem not_mem_names_set {name other : κ} {fields : Fields κ α} (h : other ∉ fields.names)
    (hne : other ≠ name) (value : α) : other ∉ (fields.set name value).names := fun hmem =>
  (mem_names_set.mp hmem).elim hne h

theorem mem_of_mem_set {name : κ} {value : α} {field : κ × α} {fields : Fields κ α}
    (h : field ∈ fields.set name value) : field = (name, value) ∨ field ∈ fields := by
  induction fields with
  | nil => exact .inl (List.mem_singleton.mp h)
  | cons first rest ih =>
    obtain ⟨k, v⟩ := first
    rw [set] at h
    split at h
    · next heq =>
      subst heq
      exact (List.mem_cons.mp h).imp_right (List.mem_cons_of_mem _)
    · rcases List.mem_cons.mp h with rfl | hrest
      · exact .inr List.mem_cons_self
      · exact (ih hrest).imp_right (List.mem_cons_of_mem _)

/-- Names stay distinct when one is set. -/
theorem nodup_names_set {fields : Fields κ α} (h : fields.names.Nodup) (name : κ) (value : α) :
    (fields.set name value).names.Nodup := by
  rw [names_set]
  split
  · exact h
  · next hnew =>
    refine List.nodup_append.mpr ⟨h, List.pairwise_singleton _ name, ?_⟩
    rintro a ha b hb rfl
    exact hnew (List.mem_singleton.mp hb ▸ ha)

/-- Fields in front that do not have a name have no part in looking it up. -/
theorem get?_append_of_not_mem {name : κ} {front : Fields κ α} (h : name ∉ front.names)
    (rest : Fields κ α) : get? name (front ++ rest) = rest.get? name := by
  induction front with
  | nil => rfl
  | cons p front ih =>
    obtain ⟨k, v⟩ := p
    rw [names, List.map_cons, List.mem_cons, not_or] at h
    rw [List.cons_append, get?, if_neg (Ne.symm h.1), ih h.2]

/-- Nor in setting it. -/
theorem set_append_of_not_mem {name : κ} {front : Fields κ α} (h : name ∉ front.names) (value : α)
    (rest : Fields κ α) : set name value (front ++ rest) = front ++ rest.set name value := by
  induction front with
  | nil => rfl
  | cons p front ih =>
    obtain ⟨k, v⟩ := p
    rw [names, List.map_cons, List.mem_cons, not_or] at h
    rw [List.cons_append, set, if_neg (Ne.symm h.1), ih h.2, List.cons_append]

theorem get?_of_not_mem {name : κ} {fields : Fields κ α} (h : name ∉ fields.names) :
    fields.get? name = none := by
  have hget := get?_append_of_not_mem h []
  rwa [List.append_nil] at hget

theorem mem_of_get? {name : κ} {value : α} {fields : Fields κ α} (h : fields.get? name = some value) :
    (name, value) ∈ fields := by
  induction fields with
  | nil => cases h
  | cons field rest ih =>
    obtain ⟨k, v⟩ := field
    rw [get?] at h
    split at h
    · next heq =>
      subst heq
      cases h
      exact List.mem_cons_self
    · exact List.mem_cons_of_mem _ (ih h)

/-- Where each name stands once, looking up the name of a field gives its value. -/
theorem get?_of_mem {name : κ} {value : α} {fields : Fields κ α} (hdistinct : fields.names.Nodup)
    (h : (name, value) ∈ fields) : fields.get? name = some value := by
  induction fields with
  | nil => cases h
  | cons field rest ih =>
    obtain ⟨k, v⟩ := field
    obtain ⟨hk, hrest⟩ := List.nodup_cons.mp hdistinct
    rcases List.mem_cons.mp h with heq | hmem
    · cases heq
      rw [get?, if_pos rfl]
    · rw [get?, if_neg (Ne.symm (ne_of_not_mem_names hk hmem)), ih hrest hmem]

/-- A new name comes last. -/
theorem set_of_not_mem {name : κ} {fields : Fields κ α} (h : name ∉ fields.names) (value : α) :
    fields.set name value = fields ++ [(name, value)] := by
  have hset := set_append_of_not_mem h value []
  rw [List.append_nil] at hset
  exact hset

/-- The first name stays first. -/
theorem head?_names_set {first : κ} {fields : Fields κ α} (h : fields.names.head? = some first)
    (name : κ) (value : α) : (fields.set name value).names.head? = some first := by
  cases fields with
  | nil => cases h
  | cons field rest =>
    obtain ⟨k, v⟩ := field
    rw [set]
    split <;> exact h

theorem setAll_cons (fields : Fields κ α) (field : κ × α) (more : List (κ × α)) :
    fields.setAll (field :: more) = (fields.set field.1 field.2).setAll more := rfl

theorem setAll_append (fields : Fields κ α) (xs ys : List (κ × α)) :
    fields.setAll (xs ++ ys) = (fields.setAll xs).setAll ys :=
  List.foldl_append

/-- A name that is not set keeps its value. -/
theorem get?_setAll_of_not_mem {name : κ} {more : Fields κ α} (h : name ∉ more.names)
    (fields : Fields κ α) : (fields.setAll more).get? name = fields.get? name := by
  induction more generalizing fields with
  | nil => rfl
  | cons field rest ih =>
    rw [names, List.map_cons, List.mem_cons, not_or] at h
    rw [setAll_cons, ih h.2, get?_set_of_ne h.1]

theorem mem_names_setAll {name : κ} {fields : Fields κ α} {more : List (κ × α)} :
    name ∈ (fields.setAll more).names ↔ name ∈ fields.names ∨ name ∈ names more := by
  induction more generalizing fields with
  | nil => exact (or_iff_left List.not_mem_nil).symm
  | cons field rest ih =>
    have hnames : names (field :: rest) = field.1 :: names rest := rfl
    rw [setAll_cons, ih, mem_names_set, hnames, List.mem_cons, or_assoc, or_left_comm]

/-- A name that is set has the value that it is set to. -/
theorem get?_setAll_of_mem {name : κ} {value : α} {more : Fields κ α} (hdistinct : more.names.Nodup)
    (h : (name, value) ∈ more) (fields : Fields κ α) :
    (fields.setAll more).get? name = some value := by
  induction more generalizing fields with
  | nil => cases h
  | cons field rest ih =>
    obtain ⟨hfirst, hrest⟩ := List.nodup_cons.mp hdistinct
    rcases List.mem_cons.mp h with rfl | hmem
    · rw [setAll_cons, get?_setAll_of_not_mem hfirst, get?_set_self]
    · exact ih hrest hmem _

/-- Names stay distinct when all of a list are set. -/
theorem nodup_names_setAll {fields : Fields κ α} (h : fields.names.Nodup) (more : List (κ × α)) :
    (fields.setAll more).names.Nodup := by
  induction more generalizing fields with
  | nil => exact h
  | cons field rest ih => exact ih (nodup_names_set h field.1 field.2)

theorem head?_names_setAll {first : κ} {fields : Fields κ α} (h : fields.names.head? = some first)
    (more : List (κ × α)) : (fields.setAll more).names.head? = some first := by
  induction more generalizing fields with
  | nil => exact h
  | cons field rest ih => exact ih (head?_names_set h field.1 field.2)

theorem nodup_names_ofPairs (pairs : List (κ × α)) : (ofPairs pairs).names.Nodup := by
  have hnil : names ([] : Fields κ α) = [] := rfl
  exact nodup_names_setAll (hnil ▸ List.nodup_nil) pairs

theorem mem_of_mem_setAll {field : κ × α} {fields : Fields κ α} {more : List (κ × α)}
    (h : field ∈ fields.setAll more) : field ∈ fields ∨ field ∈ more := by
  induction more generalizing fields with
  | nil => exact .inl h
  | cons first rest ih =>
    rcases ih h with hset | hrest
    · rcases mem_of_mem_set hset with rfl | hfields
      · exact .inr List.mem_cons_self
      · exact .inl hfields
    · exact .inr (List.mem_cons_of_mem first hrest)

theorem mem_of_mem_ofPairs {field : κ × α} {pairs : List (κ × α)} (h : field ∈ ofPairs pairs) :
    field ∈ pairs :=
  (mem_of_mem_setAll h).resolve_left List.not_mem_nil

/-- Names that are all new come last, in their order. -/
theorem setAll_of_nodup {fields more : Fields κ α} (h : (names (fields ++ more)).Nodup) :
    fields.setAll more = fields ++ more := by
  induction more generalizing fields with
  | nil => exact (List.append_nil fields).symm
  | cons field rest ih =>
    have hsplit : fields ++ field :: rest = (fields ++ [field]) ++ rest := by
      rw [List.append_assoc, List.singleton_append]
    have hnew : field.1 ∉ fields.names := by
      rw [names, List.map_append, List.map_cons] at h
      exact fun hmem => (List.nodup_append.mp h).2.2 _ hmem _ List.mem_cons_self rfl
    rw [hsplit] at h ⊢
    rw [setAll_cons, set_of_not_mem hnew, ih h]

/-- Pairs with distinct names are the fields that they make. -/
theorem ofPairs_of_nodup {fields : Fields κ α} (h : fields.names.Nodup) : ofPairs fields = fields :=
  setAll_of_nodup h

end Fields

end TokenEndpoint
