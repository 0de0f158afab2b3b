/-!
# Entries under names

A list of entries, each under its own name, in the order of the names. Names are
ordered character by character. The main statements say that looking up a name
after an insertion or a removal finds what it should.
-/

namespace Stencil

universe u
variable {α : Type u}

/-- Entries under names, in name order. -/
abbrev Named (α : Type u) := List (String × α)

namespace Named

/-- The entry under a name. -/
def get? (entries : Named α) (name : String) : Option α :=
  match entries with
  | [] => none
  | (other, entry) :: rest => if other = name then some entry else get? rest name

/-- The entries with one more, which takes the place of an earlier one. -/
def put (entries : Named α) (name : String) (entry : α) : Named α :=
  match entries with
  | [] => [(name, entry)]
  | (other, old) :: rest =>
    if name < other then (name, entry) :: (other, old) :: rest
    else if other = name then (name, entry) :: rest
    else (other, old) :: put rest name entry

/-- The entries without those under a name. -/
def drop (entries : Named α) (name : String) : Named α :=
  entries.filter fun pair => pair.1 ≠ name

/-- Some entry stands under the name. -/
def has (entries : Named α) (name : String) : Bool := (get? entries name).isSome

/-- The names, in order. -/
def names (entries : Named α) : List String := entries.map Prod.fst

/-- Applies a function to the entry under a name, if there is one. -/
def update (entries : Named α) (name : String) (change : α → α) : Named α :=
  entries.map fun pair => if pair.1 = name then (pair.1, change pair.2) else pair

/-- Applies a function to every entry. -/
def mapEntries {β : Type u} (change : α → β) (entries : Named α) : Named β :=
  entries.map fun pair => (pair.1, change pair.2)

/-- The entries of a list of pairs; of two under one name the later stays. -/
def ofPairs (pairs : List (String × α)) : Named α :=
  pairs.foldl (fun entries pair => put entries pair.1 pair.2) []

/-- What was put under a name is found there. -/
@[simp] theorem get?_put_self (entries : Named α) (name : String) (entry : α) :
    get? (put entries name entry) name = some entry := by
  induction entries with
  | nil => simp [put, get?]
  | cons pair rest inductionHypothesis =>
    obtain ⟨other, old⟩ := pair
    simp only [put]
    split
    · simp [get?]
    · split
      · simp [get?]
      · rename_i different
        simp [get?, different, inductionHypothesis]

/-- Putting an entry under one name does not touch another. -/
theorem get?_put_of_ne (entries : Named α) (name asked : String) (entry : α)
    (different : asked ≠ name) : get? (put entries name entry) asked = get? entries asked := by
  induction entries with
  | nil => simp [put, get?, Ne.symm different]
  | cons pair rest inductionHypothesis =>
    obtain ⟨other, old⟩ := pair
    simp only [put]
    split
    · simp [get?, Ne.symm different]
    · split
      · rename_i same
        subst same
        simp [get?, Ne.symm different]
      · simp [get?, inductionHypothesis]

/-- An entry that is found is one of the entries. -/
theorem mem_of_get? {entries : Named α} {name : String} {entry : α}
    (found : get? entries name = some entry) : (name, entry) ∈ entries := by
  induction entries with
  | nil => simp [get?] at found
  | cons pair rest inductionHypothesis =>
    obtain ⟨other, first⟩ := pair
    by_cases same : other = name
    · have equal : first = entry := by simpa [get?, same] using found
      simp [same, equal]
    · exact List.mem_cons_of_mem _ (inductionHypothesis (by simpa [get?, same] using found))

/-- An entry that is there after putting one was there before, or is the one put. -/
theorem mem_of_mem_put {entries : Named α} {name : String} {entry : α} {pair : String × α}
    (member : pair ∈ put entries name entry) : pair = (name, entry) ∨ pair ∈ entries := by
  induction entries with
  | nil => simpa [put] using member
  | cons first rest inductionHypothesis =>
    obtain ⟨other, old⟩ := first
    simp only [put] at member
    split at member
    · simpa using member
    · split at member
      · rcases List.mem_cons.mp member with same | among
        · exact Or.inl same
        · exact Or.inr (by simp [among])
      · rcases List.mem_cons.mp member with same | among
        · exact Or.inr (by simp [same])
        · rcases inductionHypothesis among with same | earlier
          · exact Or.inl same
          · exact Or.inr (by simp [earlier])

/-- Every entry made of pairs is one of the pairs. -/
theorem mem_of_mem_ofPairs {pairs : List (String × α)} {pair : String × α}
    (member : pair ∈ ofPairs pairs) : pair ∈ pairs := by
  have gathered : ∀ (rest : List (String × α)) (entries : Named α),
      pair ∈ rest.foldl (fun entries pair => put entries pair.1 pair.2) entries →
        pair ∈ entries ∨ pair ∈ rest := by
    intro rest
    induction rest with
    | nil => exact fun entries found => Or.inl found
    | cons first rest inductionHypothesis =>
      intro entries found
      rcases inductionHypothesis _ found with among | later
      · rcases mem_of_mem_put among with same | earlier
        · exact Or.inr (by simp [same])
        · exact Or.inl earlier
      · exact Or.inr (by simp [later])
  rcases gathered pairs [] member with impossible | found
  · cases impossible
  · exact found

/-- Of pairs with different names each is found under its name. -/
theorem get?_ofPairs_of_mem {pairs : List (String × α)} {name : String} {entry : α}
    (distinct : (pairs.map Prod.fst).Nodup) (member : (name, entry) ∈ pairs) :
    get? (ofPairs pairs) name = some entry := by
  -- An entry is put there by one of the pairs to come, or is there to stay.
  have gathered : ∀ (rest : List (String × α)) (entries : Named α),
      (rest.map Prod.fst).Nodup →
      (name, entry) ∈ rest ∨ name ∉ rest.map Prod.fst ∧ get? entries name = some entry →
        get? (rest.foldl (fun entries pair => put entries pair.1 pair.2) entries) name =
          some entry := by
    intro rest
    induction rest with
    | nil => exact fun entries _ found => found.elim (fun impossible => nomatch impossible) (·.2)
    | cons pair rest inductionHypothesis =>
      intro entries distinct found
      obtain ⟨apart, others⟩ := List.nodup_cons.mp distinct
      refine inductionHypothesis _ others ?_
      rcases found with isMember | ⟨absent, stays⟩
      · rcases List.mem_cons.mp isMember with rfl | later
        · exact Or.inr ⟨apart, get?_put_self ..⟩
        · exact Or.inl later
      · obtain ⟨differs, notLater⟩ := not_or.mp (mt List.mem_cons.mpr absent)
        exact Or.inr ⟨notLater, (get?_put_of_ne _ _ _ _ differs).trans stays⟩
  exact gathered pairs [] distinct (Or.inl member)

/-- Nothing is found under a dropped name. -/
@[simp] theorem get?_drop_self (entries : Named α) (name : String) :
    get? (drop entries name) name = none := by
  induction entries with
  | nil => rfl
  | cons pair rest inductionHypothesis =>
    obtain ⟨other, old⟩ := pair
    by_cases same : other = name
    · simpa [drop, same] using inductionHypothesis
    · simpa [drop, same, get?] using inductionHypothesis

/-- Dropping one name does not touch another. -/
theorem get?_drop_of_ne (entries : Named α) (name asked : String) (different : asked ≠ name) :
    get? (drop entries name) asked = get? entries asked := by
  induction entries with
  | nil => rfl
  | cons pair rest inductionHypothesis =>
    obtain ⟨other, old⟩ := pair
    by_cases same : other = name
    · subst same
      simpa [drop, get?, Ne.symm different] using inductionHypothesis
    · by_cases found : other = asked
      · subst found
        simp [drop, get?, different]
      · simpa [drop, same, get?, found] using inductionHypothesis

end Named

end Stencil
