import Stencil.Files.Basic
import Stencil.Proofs.Filing.Paths

/-!
# What the files gain

To create a file changes what there is at the place that its path leads to, and makes the
folders that are missing on the way there. If the file is refused then at most such folders
are made. So whatever was there before and is not the file itself stays as it was.
-/

namespace Stencil

namespace Files

variable {files between after : Files} {path key : List String} {node : FileNode}

/-- A node that was put is found. -/
theorem get?_put_self (files : Files) (proper : path ≠ []) (node : FileNode) :
    (files.put path node).get? path = some node := by
  have found : (files.put path node).lookup path = some node := by
    induction files with
    | nil => simp [put]
    | cons entry rest inductionHypothesis =>
      obtain ⟨other, old⟩ := entry
      simp only [put]
      split
      · simp
      · split
        · simp
        · rename_i differs
          have apart : (path == other) = false := by simpa using Ne.symm differs
          rw [List.lookup_cons, apart]
          exact inductionHypothesis
  unfold get?
  split
  · exact absurd rfl proper
  · exact found

/-- Putting a node does not touch another. -/
theorem get?_put_of_ne (files : Files) (node : FileNode) (different : key ≠ path) :
    (files.put path node).get? key = files.get? key := by
  have apart : (key == path) = false := by simpa using different
  have same : (files.put path node).lookup key = files.lookup key := by
    induction files with
    | nil => simp [put, List.lookup_cons, apart]
    | cons entry rest inductionHypothesis =>
      obtain ⟨other, old⟩ := entry
      simp only [put]
      split
      · rw [List.lookup_cons, apart]
      · split
        · rename_i isThis
          subst isThis
          rw [List.lookup_cons, List.lookup_cons, apart]
        · rw [List.lookup_cons, List.lookup_cons, inductionHypothesis]
  unfold get?
  split
  · rfl
  · exact same

/-- Between two states of the files there are folders more, in certain places where nothing
was, and nothing else. -/
def GainsFolders (places : List String → Prop) (files after : Files) : Prop :=
  ∀ key, after.get? key = files.get? key ∨
    files.get? key = none ∧ after.get? key = some .folder ∧ places key

section Gains

variable {places : List String → Prop}

/-- Nothing may be gained. -/
theorem GainsFolders.refl (files : Files) : GainsFolders places files files :=
  fun _ => Or.inl rfl

/-- Folders may be gained one after the other. -/
theorem GainsFolders.trans (earlier : GainsFolders places files between)
    (later : GainsFolders places between after) : GainsFolders places files after := by
  intro key
  rcases later key with same | ⟨missing, isFolder, isPlace⟩
  · rw [same]
    exact earlier key
  · rcases earlier key with same | ⟨_, already, _⟩
    · exact Or.inr ⟨same.symm.trans missing, isFolder, isPlace⟩
    · cases missing.symm.trans already

/-- They are gained in other places, too, if those include the places. -/
theorem GainsFolders.weaken {others : List String → Prop}
    (gains : GainsFolders places files after) (among : ∀ key, places key → others key) :
    GainsFolders others files after :=
  fun key => (gains key).imp_right fun ⟨missing, isFolder, isPlace⟩ =>
    ⟨missing, isFolder, among key isPlace⟩

end Gains

/-- A place that some first steps lead to. -/
def OnTheWay (steps : List String) (key : List String) : Prop :=
  ∃ ahead, ahead <+: steps ∧ key = FilePath.place ahead

/-- What was on the way is on a longer way. -/
theorem OnTheWay.longer {steps onward : List String} (onTheWay : OnTheWay steps key)
    (further : steps <+: onward) : OnTheWay onward key := by
  obtain ⟨ahead, isAhead, isPlace⟩ := onTheWay
  exact ⟨ahead, isAhead.trans further, isPlace⟩

/-- Where steps arrive, all of them but the last lead to a folder. -/
theorem of_arrival {steps : List String} {found : Option FileNode}
    (arrives : files.arrival steps = .ok found) :
    files.follow [] .folder steps.dropLast = .ok .folder ∧
      files.get? (FilePath.place steps) = found := by
  unfold arrival at arrives
  split at arrives
  · cases arrives
  · cases arrives
  · rename_i leads
    exact ⟨leads, Except.ok.inj arrives⟩

/-- A folder that is made stands where the steps lead. -/
theorem gainsFolders_makeFolder (files : Files) (steps : List String) :
    GainsFolders (OnTheWay steps) files (files.makeFolder steps).2 := by
  unfold makeFolder
  split
  · exact .refl files
  · rename_i arrives
    have missing := (of_arrival arrives).2
    have notRoot : FilePath.place steps ≠ [] := by
      intro isRoot
      rw [isRoot] at missing
      cases missing
    intro key
    by_cases isPlace : key = FilePath.place steps
    · subst isPlace
      exact Or.inr ⟨missing, get?_put_self files notRoot .folder, steps, List.prefix_rfl, rfl⟩
    · exact Or.inl (get?_put_of_ne files .folder isPlace)
  · exact .refl files
  · exact .refl files

/-- Folders that are made stand on the way. -/
theorem gainsFolders_makeFoldersBack (files : Files) (reversed : List String) :
    GainsFolders (OnTheWay reversed.reverse) files (files.makeFoldersBack reversed).2 := by
  induction reversed with
  | nil => exact .refl files
  | cons step before inductionHypothesis =>
    have further : before.reverse <+: (step :: before).reverse := by
      rw [List.reverse_cons]
      exact List.prefix_append _ _
    have earlier : GainsFolders (OnTheWay (step :: before).reverse) files
        (files.makeFoldersBack before).2 :=
      GainsFolders.weaken inductionHypothesis fun key onTheWay => onTheWay.longer further
    unfold makeFoldersBack
    split
    · split
      · rename_i made
        rw [made] at earlier
        exact earlier.trans (gainsFolders_makeFolder _ _)
      · exact earlier
    · exact gainsFolders_makeFolder _ _

/-- The place of a folder that a path leads through. -/
def Above (path : String) (key : List String) : Prop :=
  OnTheWay (FilePath.steps path).dropLast key

/-- What is made before a file is written stands above its path. -/
theorem gainsFolders_prepare (files : Files) (path : String) :
    GainsFolders (Above path) files (files.prepare path).2 := by
  unfold prepare Above
  split
  · exact .refl files
  · rename_i folder isParent
    have gains := files.gainsFolders_makeFoldersBack (FilePath.steps folder).reverse
    rw [List.reverse_reverse] at gains
    rw [← FilePath.steps_parent? isParent]
    exact gains

/-- A file is no folder, so no steps lead on from there. -/
theorem follow_of_file {reached steps : List String} {bytes : ByteArray} :
    files.follow reached (.file bytes) steps ≠ .ok .folder := by
  cases steps <;> exact nofun

/-- Where steps lead through folders they lead still if a file is put where no folder is. -/
theorem follow_put {reached steps : List String} {bytes : ByteArray}
    (noFolder : files.get? path ≠ some .folder)
    (leads : files.follow reached .folder steps = .ok .folder) :
    (files.put path (.file bytes)).follow reached .folder steps = .ok .folder := by
  induction steps generalizing reached with
  | nil => rfl
  | cons step rest inductionHypothesis =>
    unfold follow at leads ⊢
    cases found : files.get? (FilePath.onward reached step) with
    | none =>
      simp only [found] at leads
      cases leads
    | some next =>
      simp only [found] at leads
      cases next with
      | file other => exact absurd leads follow_of_file
      | folder =>
        have different : FilePath.onward reached step ≠ path := fun same =>
          noFolder (same ▸ found)
        simp only [get?_put_of_ne _ _ different, found]
        exact inductionHypothesis leads

/-- From a folder one more step leads to what is there. -/
theorem follow_concat {reached steps : List String} {step : String}
    (leads : files.follow reached .folder steps = .ok .folder)
    (here : files.get? (FilePath.onward (steps.foldl FilePath.onward reached) step) = some node) :
    files.follow reached .folder (steps ++ [step]) = .ok node := by
  induction steps generalizing reached with
  | nil =>
    have found : files.get? (FilePath.onward reached step) = some node := here
    simp [follow, found]
  | cons first rest inductionHypothesis =>
    rw [List.cons_append]
    unfold follow at leads ⊢
    cases found : files.get? (FilePath.onward reached first) with
    | none =>
      simp only [found] at leads
      cases leads
    | some next =>
      simp only [found] at leads
      cases next with
      | file other => exact absurd leads follow_of_file
      | folder => exact inductionHypothesis leads here

/-- A file that is written is put where no folder is, and its path leads there. -/
theorem of_writeFile {path : String} {bytes : ByteArray}
    (written : files.writeFile path bytes = .ok after) :
    after = files.put (FilePath.place (FilePath.steps path)) (.file bytes) ∧
      after.get? (FilePath.place (FilePath.steps path)) = some (.file bytes) ∧
      after.find path = .ok (.file bytes) := by
  unfold writeFile at written
  split at written
  · cases written
  split at written
  · cases written
  split at written
  · cases written
  · cases written
  rename_i arrived noFolder arrives
  cases written
  obtain ⟨leads, rfl⟩ := of_arrival arrives
  have notRoot : FilePath.place (FilePath.steps path) ≠ [] := by
    intro isRoot
    rw [isRoot] at noFolder
    exact noFolder rfl
  have here := get?_put_self files notRoot (.file bytes)
  refine ⟨rfl, here, ?_⟩
  have notEmpty : FilePath.steps path ≠ [] := by
    intro isEmpty
    rw [isEmpty] at notRoot
    exact notRoot rfl
  have parts := List.dropLast_concat_getLast notEmpty
  have leadsStill : (files.put (FilePath.place (FilePath.steps path)) (.file bytes)).follow []
      .folder (FilePath.steps path).dropLast = .ok .folder := follow_put noFolder leads
  have isLast := FilePath.place_concat (FilePath.steps path).dropLast _ |>.symm.trans
    (congrArg FilePath.place parts)
  have leadsOn := follow_concat leadsStill ((congrArg _ isLast).trans here)
  rwa [parts] at leadsOn

/-- A file that was created is found under its path with its bytes. -/
theorem find_of_created {path : String} {bytes : ByteArray}
    (created : (files.create path bytes).1 = .ok ()) :
    (files.create path bytes).2.find path = .ok (.file bytes) := by
  unfold create at created ⊢
  split
  · rename_i isPrepared
    rw [isPrepared] at created
    cases created
  · rename_i isPrepared
    rw [isPrepared] at created
    split
    · rename_i refused
      simp only [refused] at created
      cases created
    · rename_i written
      exact (of_writeFile written).2.2

/-- To create a file changes what there is where its path leads to, and that only if it is
not refused; and it makes folders that were missing on the way. -/
theorem get?_create (files : Files) (path : String) (bytes : ByteArray) (key : List String) :
    let created := files.create path bytes
    created.2.get? key = files.get? key ∨
      created.1 = .ok () ∧ key = FilePath.place (FilePath.steps path) ∧
        created.2.get? key = some (.file bytes) ∨
      files.get? key = none ∧ created.2.get? key = some .folder ∧ Above path key := by
  have gains := files.gainsFolders_prepare path key
  unfold create
  dsimp only
  split
  · rename_i isPrepared
    rw [isPrepared] at gains
    exact gains.imp_right Or.inr
  · rename_i isPrepared
    rw [isPrepared] at gains
    split
    · exact gains.imp_right Or.inr
    · rename_i written
      obtain ⟨rfl, here, -⟩ := of_writeFile written
      by_cases isPlace : key = FilePath.place (FilePath.steps path)
      · exact Or.inr (Or.inl ⟨rfl, isPlace, isPlace ▸ here⟩)
      · rw [get?_put_of_ne _ _ isPlace]
        exact gains.imp_right Or.inr

end Files

end Stencil
