import Mathlib.Data.List.Induction
import Stencil.Named

/-!
# Entries stay in order

Entries that are made of nothing by putting, dropping and changing entries are in the
order of their names, and no two stand under one name. So an entry that is there is the
one that is found, and putting an entry exchanges it for the one that was found before.
Of pairs that are put one after the other the last one under each name is left.
-/

namespace Stencil.Named

universe u
variable {α : Type u} {entries : Named α} {name : String}

/-- The names are in order, each of them once. -/
def Ordered (entries : Named α) : Prop := entries.Pairwise fun first second => first.1 < second.1

/-- No entries are in order. -/
theorem ordered_nil : Ordered ([] : Named α) := List.Pairwise.nil

/-- With some entries taken out the others are in order. -/
theorem Ordered.filter (ordered : Ordered entries) (keep : String × α → Bool) :
    Ordered (entries.filter keep) :=
  List.Pairwise.sublist List.filter_sublist ordered

/-- So they are after one was dropped. -/
theorem Ordered.drop (ordered : Ordered entries) (name : String) :
    Ordered (Named.drop entries name) :=
  ordered.filter _

/-- Changing an entry leaves its name. -/
theorem Ordered.update (ordered : Ordered entries) (name : String) (change : α → α) :
    Ordered (Named.update entries name change) := by
  refine List.pairwise_map.mpr (List.Pairwise.imp ?_ ordered)
  intro first second before
  split <;> split <;> exact before

/-- A new entry gets the place that its name has in the order. -/
theorem Ordered.put (ordered : Ordered entries) (name : String) (entry : α) :
    Ordered (Named.put entries name entry) := by
  induction entries with
  | nil => exact List.pairwise_singleton _ _
  | cons pair rest inductionHypothesis =>
    obtain ⟨other, old⟩ := pair
    obtain ⟨first, restOrdered⟩ := List.pairwise_cons.mp ordered
    simp only [Named.put]
    split
    · rename_i before
      refine List.pairwise_cons.mpr ⟨fun later member => ?_, ordered⟩
      rcases List.mem_cons.mp member with rfl | among
      · exact before
      · exact String.lt_trans before (first later among)
    · split
      · rename_i same
        exact List.pairwise_cons.mpr ⟨fun later member => same ▸ first later member, restOrdered⟩
      · rename_i notBefore different
        have behind : other < name :=
          Std.lt_of_le_of_ne (String.not_lt.mp notBefore) different
        refine List.pairwise_cons.mpr ⟨fun later member => ?_, inductionHypothesis restOrdered⟩
        rcases mem_of_mem_put member with rfl | among
        · exact behind
        · exact first later among

/-- A later entry stands under another name than the first. -/
theorem Ordered.ne_of_mem {first : String × α} (ordered : Ordered (first :: entries))
    {later : String × α} (member : later ∈ entries) : later.1 ≠ first.1 := by
  have before : first.1 < later.1 := (List.pairwise_cons.mp ordered).1 later member
  exact fun same => String.lt_irrefl first.1 (same ▸ before)

/-- What is found behind the first entry does not belong before it. -/
theorem Ordered.not_lt_of_get? {first : String × α} (ordered : Ordered (first :: entries))
    {entry : α} (found : get? entries name = some entry) : ¬name < first.1 := by
  have before : first.1 < name := (List.pairwise_cons.mp ordered).1 _ (mem_of_get? found)
  exact fun earlier => String.lt_irrefl name (String.lt_trans earlier before)

/-- An entry that is there is the one that is found. -/
theorem Ordered.get?_of_mem (ordered : Ordered entries) {entry : α}
    (member : (name, entry) ∈ entries) : get? entries name = some entry := by
  induction entries with
  | nil => cases member
  | cons pair rest inductionHypothesis =>
    rcases List.mem_cons.mp member with same | among
    · cases same
      simp [get?]
    · have different : pair.1 ≠ name := Ne.symm (ordered.ne_of_mem among)
      simpa [get?, different] using inductionHypothesis (List.pairwise_cons.mp ordered).2 among

/-- Where nothing is found under a name, an entry is added. -/
theorem put_perm_of_none (missing : get? entries name = none) (entry : α) :
    (Named.put entries name entry).Perm ((name, entry) :: entries) := by
  induction entries with
  | nil => exact List.Perm.refl _
  | cons pair rest inductionHypothesis =>
    obtain ⟨other, old⟩ := pair
    simp only [Named.put]
    split
    · exact List.Perm.refl _
    · split
      · rename_i same
        simp [get?, same] at missing
      · rename_i different
        have restMissing : get? rest name = none := by simpa [get?, different] using missing
        exact ((inductionHypothesis restMissing).cons _).trans (List.Perm.swap _ _ _)

/-- Where something is found, it is exchanged; and dropping takes it away. -/
theorem Ordered.exchange (ordered : Ordered entries) {old : α}
    (found : get? entries name = some old) :
    entries.Perm ((name, old) :: Named.drop entries name) ∧
      ∀ entry, (Named.put entries name entry).Perm ((name, entry) :: Named.drop entries name) := by
  induction entries with
  | nil => cases found
  | cons pair rest inductionHypothesis =>
    obtain ⟨other, first⟩ := pair
    by_cases same : other = name
    · subst same
      have equal : first = old := by simpa [get?] using found
      subst equal
      have kept : Named.drop ((other, first) :: rest) other = rest := by
        simp only [Named.drop, ne_eq, decide_not, List.filter_cons, decide_true, Bool.not_true,
          Bool.false_eq_true, if_false]
        refine List.filter_eq_self.mpr fun pair member => ?_
        have different : pair.1 ≠ other := ordered.ne_of_mem member
        simpa using different
      rw [kept]
      refine ⟨List.Perm.refl _, fun entry => ?_⟩
      simp [Named.put]
    · have restFound : get? rest name = some old := by simpa [get?, same] using found
      obtain ⟨exchanged, putting⟩ :=
        inductionHypothesis (List.pairwise_cons.mp ordered).2 restFound
      have behind : ¬name < other := ordered.not_lt_of_get? restFound
      have kept : Named.drop ((other, first) :: rest) name =
          (other, first) :: Named.drop rest name := by
        simp [Named.drop, same]
      rw [kept]
      refine ⟨(exchanged.cons _).trans (List.Perm.swap _ _ _), fun entry => ?_⟩
      simp only [Named.put, behind, same, if_false]
      exact ((putting entry).cons _).trans (List.Perm.swap _ _ _)

/-- What is found after an entry was changed. -/
theorem get?_update (entries : Named α) (name asked : String) (change : α → α) :
    get? (Named.update entries name change) asked =
      (get? entries asked).map fun entry => if asked = name then change entry else entry := by
  induction entries with
  | nil => rfl
  | cons pair rest inductionHypothesis =>
    obtain ⟨other, entry⟩ := pair
    have later : get? (rest.map fun pair =>
        if pair.1 = name then (pair.1, change pair.2) else pair) asked = _ := inductionHypothesis
    by_cases isThis : other = name <;> by_cases found : other = asked <;>
      simp_all [Named.update, get?]

/-- Putting an entry where another is found changes that one. -/
theorem Ordered.put_eq_update (ordered : Ordered entries) {old : α}
    (found : get? entries name = some old) (change : α → α) :
    Named.put entries name (change old) = Named.update entries name change := by
  induction entries with
  | nil => cases found
  | cons pair rest inductionHypothesis =>
    obtain ⟨other, first⟩ := pair
    by_cases same : other = name
    · subst same
      have equal : first = old := by simpa [get?] using found
      have kept : Named.update rest other change = rest :=
        (List.map_congr_left fun pair member => if_neg (ordered.ne_of_mem member)).trans
          (List.map_id rest)
      have updated : Named.update ((other, first) :: rest) other change =
          (other, change old) :: Named.update rest other change := by
        simp [Named.update, equal]
      rw [updated, kept]
      simp [Named.put]
    · have restFound : get? rest name = some old := by simpa [get?, same] using found
      have behind : ¬name < other := ordered.not_lt_of_get? restFound
      have later := inductionHypothesis (List.pairwise_cons.mp ordered).2 restFound
      simp only [Named.put, behind, same, if_false, later]
      simp [Named.update, same]

/-- What is found after entries were taken out: an entry that was found before and is
not one of them. -/
theorem Ordered.get?_filter (ordered : Ordered entries) (keep : String × α → Bool) :
    get? (entries.filter keep) name =
      (get? entries name).filter fun entry => keep (name, entry) := by
  induction entries with
  | nil => rfl
  | cons pair rest inductionHypothesis =>
    obtain ⟨other, entry⟩ := pair
    have later := inductionHypothesis (List.pairwise_cons.mp ordered).2
    by_cases found : other = name
    · subst found
      have missing : get? rest other = none := by
        cases there : get? rest other with
        | none => rfl
        | some again =>
          have member : (other, again) ∈ rest := mem_of_get? there
          exact (ordered.ne_of_mem member rfl).elim
      by_cases kept : keep (other, entry) = true
      · simp [get?, kept, Option.filter]
      · simp [get?, kept, later, missing, Option.filter]
    · by_cases kept : keep (other, entry) = true
      · simpa [get?, kept, found] using later
      · simpa [get?, kept, found] using later

/-- The entries are those of pairs; of the pairs under one name the last one counts. -/
structure Latest (entries : Named α) (pairs : List (String × α)) : Prop where
  /-- The names are in order, each of them once. -/
  ordered : entries.Ordered
  /-- They are the names of the pairs. -/
  names : ∀ name, name ∈ entries.names ↔ name ∈ pairs.map Prod.fst
  /-- The last pair under a name gives the entry. -/
  last : ∀ name, entries.get? name =
    ((pairs.filter fun pair => pair.1 = name).getLast?).map Prod.snd

/-- Putting an entry adds its name. -/
theorem mem_names_put {asked : String} {entry : α} :
    asked ∈ (entries.put name entry).names ↔ asked = name ∨ asked ∈ entries.names := by
  induction entries with
  | nil => simp [put, names]
  | cons pair rest inductionHypothesis =>
    obtain ⟨other, old⟩ := pair
    simp only [names] at inductionHypothesis
    simp only [put, names]
    split
    · simp
    · split
      · rename_i same
        simp [same]
      · simp [inductionHypothesis, or_left_comm]

/-- Entries that are made of pairs are theirs. -/
theorem latest_ofPairs (pairs : List (String × α)) : (ofPairs pairs).Latest pairs := by
  induction pairs using List.reverseRecOn with
  | nil => exact ⟨ordered_nil, fun _ => Iff.rfl, fun _ => rfl⟩
  | append_singleton pairs pair inductionHypothesis =>
    have isPut : ofPairs (pairs ++ [pair]) = (ofPairs pairs).put pair.1 pair.2 := by
      simp [ofPairs]
    rw [isPut]
    refine ⟨inductionHypothesis.ordered.put _ _, fun name => ?_, fun name => ?_⟩
    · rw [mem_names_put, inductionHypothesis.names]
      simp [or_comm, eq_comm]
    · by_cases same : pair.1 = name
      · subst same
        simp
      · rw [get?_put_of_ne _ _ _ _ (Ne.symm same), inductionHypothesis.last]
        simp [same]

/-- Under the names of pairs there are entries. -/
theorem isSome_ofPairs {pairs : List (String × α)} (member : name ∈ pairs.map Prod.fst) :
    (get? (ofPairs pairs) name).isSome := by
  rw [(latest_ofPairs pairs).last]
  obtain ⟨pair, isPair, rfl⟩ := List.mem_map.mp member
  have left : pair ∈ pairs.filter fun other => other.1 = pair.1 := by simpa using isPair
  simpa using List.ne_nil_of_mem left

end Stencil.Named
