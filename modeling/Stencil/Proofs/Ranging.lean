import Mathlib
import Stencil.Proofs.Writing

/-!
# Range loops go through progressions

A range loop executes its body once for each number of an arithmetic progression that does not
pass the last one, in order, in a scope of its own. The numbers are computed with room to
spare, and fit into words again. What the loop tells its body counts the numbers from either
end.
-/

namespace Stencil

namespace Progression

/-- The number does not pass the last one, upwards or downwards. -/
def Reaches (down : Bool) (last number : Int) : Prop :=
  if down then last ≤ number else number ≤ last

/-- How far it is from the first number to the last. -/
def distance (first last : Int) (down : Bool) : Int :=
  if down then first - last else last - first

variable {first last step : Int} {down : Bool} {index : Nat}

/-- A term does not pass the last number if the steps to it are no longer than the distance. -/
theorem reaches_term_iff :
    Reaches down last ((between first last step down).term index) ↔
      index * step ≤ distance first last down := by
  have same : index * step = step * index := Int.mul_comm ..
  cases down
  · simp only [Reaches, distance, term, between, Bool.false_eq_true, if_false, same]
    omega
  · simp only [Reaches, distance, term, between, if_true, same]
    omega

/-- Except for the one case that cannot be counted, the terms are those that do not pass the
last number. -/
theorem lt_count_iff (within : distance first last down ≤ 2 ^ 64 - 1)
    (countable : ¬ (step = 1 ∧ distance first last down = 2 ^ 64 - 1)) :
    index < (between first last step down).count ↔
      0 < step ∧ Reaches down last ((between first last step down).term index) := by
  have counted : (between first last step down).count =
      if step ≤ 0 || distance first last down < 0 then 0
      else min (distance first last down / step + 1).toNat (Text.wordCount - 1) := rfl
  rw [reaches_term_iff, counted]
  by_cases forward : 0 < step
  · by_cases behind : distance first last down < 0
    · have ahead : 0 ≤ index * step :=
        Int.mul_nonneg (Int.natCast_nonneg index) (Int.le_of_lt forward)
      simp only [behind, decide_true, Bool.or_true, if_true, Nat.not_lt_zero, false_iff, not_and]
      intro _
      omega
    · have fewer : distance first last down / step < 2 ^ 64 - 1 :=
        Int.ediv_lt_of_lt_mul forward (by omega)
      have room : (distance first last down / step + 1).toNat ≤ Text.wordCount - 1 := by
        unfold Text.wordCount
        omega
      have steps : (index : Int) ≤ distance first last down / step ↔
          index * step ≤ distance first last down := Int.le_ediv_iff_mul_le forward
      have nonneg : 0 ≤ distance first last down / step :=
        Int.ediv_nonneg (Int.not_lt.mp behind) (Int.le_of_lt forward)
      rw [← steps, Nat.min_eq_left room, if_neg (by simp [behind, Int.not_le.mpr forward])]
      omega
  · simp [Int.not_lt.mp forward, forward]

/-- Words are not farther apart than there are words. -/
theorem distance_words_le (first last : Int64) (down : Bool) :
    distance first.toInt last.toInt down ≤ 2 ^ 64 - 1 := by
  have := first.le_toInt
  have := first.toInt_lt
  have := last.le_toInt
  have := last.toInt_lt
  unfold distance
  split <;> omega

/-- A term between two words is a word: narrowing does not change it. -/
theorem toInt_term {first last step : Int64} (forward : 0 < step.toInt)
    (reaches : Reaches down last.toInt
      ((between first.toInt last.toInt step.toInt down).term index)) :
    (Int64.ofInt ((between first.toInt last.toInt step.toInt down).term index)).toInt =
      (between first.toInt last.toInt step.toInt down).term index := by
  have ahead : 0 ≤ step.toInt * index :=
    Int.mul_nonneg (Int.le_of_lt forward) (Int.natCast_nonneg index)
  have := first.le_toInt
  have := first.toInt_lt
  have := last.le_toInt
  have := last.toInt_lt
  cases down
  · simp only [Reaches, term, between, Bool.false_eq_true, if_false] at reaches ⊢
    exact Int64.toInt_ofInt_of_le (by omega) (by omega)
  · simp only [Reaches, term, between, if_true] at reaches ⊢
    exact Int64.toInt_ofInt_of_le (by omega) (by omega)

end Progression

/-- The field of a record holds an integer. -/
def Value.Counts (record : Value) (field : String) (number : Int) : Prop :=
  ∃ word, record.field? field = some (.integer word) ∧ word.toInt = number

/-- What a loop tells its body at an index: how many rounds there were and how many are to
come, with and without this one, whether it is the first or the last one, and the loop around
it. -/
structure Value.TellsRound (loop : Value) (place count : Nat) (parent : Option Value) : Prop where
  counter : loop.Counts "counter" (place + 1)
  counter0 : loop.Counts "counter0" place
  index : loop.Counts "index" place
  revcounter : loop.Counts "revcounter" (count - place)
  revcounter0 : loop.Counts "revcounter0" (count - place - 1)
  first : loop.field? "first" = some (.boolean (place = 0))
  last : loop.field? "last" = some (.boolean ((place : Int) = count - 1))
  parent : loop.field? "parentloop" = some (parent.getD .none)

/-- A scope holds a number under its name, the loop, and nothing else. A number under the name
of the loop is hidden by the loop. -/
structure HoldsRound (scope : Named Value) (name : String) (number : Int) (loop : Value) :
    Prop where
  number : name ≠ "forloop" →
    ∃ word, Named.get? scope name = some (.integer word) ∧ word.toInt = number
  loop : Named.get? scope "forloop" = some loop
  only : ∀ other, other ≠ name → other ≠ "forloop" → Named.get? scope other = none

/-- The loop, as the body of a range loop sees it at an index. -/
def loopRecord (index count : Nat) (parent : Option Value) : Run Value :=
  Run.hosted (Host.fresh (Value.newRecord (loopEntries index count parent)))

/-- The scope of the body of a range loop. -/
def numberScope (name : String) (number : Int) (loop : Value) : Named Value :=
  Named.ofPairs [(name, .integer (Int64.ofInt number)), ("forloop", loop)]

/-- A round of a range loop. -/
def numberRound (name : String) (numbers : Progression) (parent : Option Value) (body : Run Unit)
    (index : Nat) : Run Unit := do
  let loop ← loopRecord index numbers.count parent
  Run.inScope (numberScope name (numbers.term index) loop) body

/-- The first and the last number and the step of a range loop. The step is one unless it is
given. -/
def rangeBounds (first last : Expr) (step : Option Expr) : Run (Int64 × Int64 × Int64) := do
  let first := (← Run.evaluate first).toInteger
  let last := (← Run.evaluate last).toInteger
  let step ← match step with
    | some step => pure (← Run.evaluate step).toInteger
    | none => pure 1
  return (first, last, step)

/-- The fields of the loop are its entries. -/
theorem field?_loopRecord {index count : Nat} {parent : Option Value} {loop : Value}
    {world started : World} (made : loopRecord index count parent world = (.ok loop, started))
    {field : String} {value : Value} (member : (field, value) ∈ loopEntries index count parent) :
    loop.field? field = some value := by
  obtain ⟨same, -⟩ := Prod.mk.inj made
  obtain rfl := Except.ok.inj same
  have distinct : ((loopEntries index count parent).map Prod.fst).Nodup := by
    simp only [loopEntries, List.map_cons, List.map_nil]
    decide
  have found : Named.get? (Named.ofPairs (loopEntries index count parent)) field = some value :=
    Named.get?_ofPairs_of_mem distinct member
  exact congrArg some (congrArg (·.getD Value.none) found)

/-- The loop tells its body what it should, as long as it can count. -/
theorem tellsRound_loopRecord {index count : Nat} {parent : Option Value} {loop : Value}
    {world started : World} (inside : index < count) (small : count ≤ 2 ^ 63 - 1)
    (made : loopRecord index count parent world = (.ok loop, started)) :
    loop.TellsRound index count parent := by
  have counts : ∀ {field : String} (number : Nat), number < 2 ^ 63 →
      (field, Value.natural number) ∈ loopEntries index count parent →
        loop.Counts field number := fun _ fits member =>
    ⟨_, field?_loopRecord made member, Int64.toInt_ofNat_of_lt fits⟩
  have toCome : ((count - index : Nat) : Int) = count - index := by omega
  have others : ((count - index - 1 : Nat) : Int) = count - index - 1 := by omega
  have isLast : (decide (index + 1 = count)) = decide ((index : Int) = count - 1) :=
    decide_eq_decide.mpr (by omega)
  exact {
    counter := counts (index + 1) (by omega) (by simp [loopEntries])
    counter0 := counts index (by omega) (by simp [loopEntries])
    index := counts index (by omega) (by simp [loopEntries])
    revcounter := toCome ▸ counts (count - index) (by omega) (by simp [loopEntries])
    revcounter0 := others ▸ counts (count - index - 1) (by omega) (by simp [loopEntries])
    first := field?_loopRecord made (by simp [loopEntries])
    last := field?_loopRecord made (by simp [loopEntries, isLast])
    parent := field?_loopRecord made (by simp [loopEntries]) }

/-- The scope of the body holds what it should. -/
theorem holdsRound_numberScope (name : String) {number : Int} (loop : Value)
    (fits : (Int64.ofInt number).toInt = number) :
    HoldsRound (numberScope name number loop) name number loop := by
  have scope : numberScope name number loop =
      Named.put (Named.put [] name (.integer (Int64.ofInt number))) "forloop" loop := rfl
  refine ⟨fun differs => ⟨_, ?_, fits⟩, ?_, fun other differs differsToo => ?_⟩
  · rw [scope, Named.get?_put_of_ne _ _ _ _ differs, Named.get?_put_self]
  · rw [scope, Named.get?_put_self]
  · rw [scope, Named.get?_put_of_ne _ _ _ _ differsToo, Named.get?_put_of_ne _ _ _ _ differs]
    rfl

/-- A round writes the same to every sink. -/
theorem streams_numberRound (name : String) (numbers : Progression) (parent : Option Value)
    (depth : Nat) (station : Station) (body : List Stmt) (index : Nat) :
    Run.Streams (fun _ => True)
      (numberRound name numbers parent (executeAll (expand depth) station body) index) :=
  (Run.silent_hosted _).streams.bind fun _ _ => (streams_executeAll depth station body).inScope _

/-- A range loop finds its bounds, and performs its rounds. -/
theorem execute_range (station : Station) (name : String) (first last : Expr)
    (step : Option Expr) (down : Bool) (body : List Stmt) (expand : Expansion) :
    (Stmt.within (.range name first last down step) body).execute expand station = (do
      let (first, last, step) ← rangeBounds first last step
      let parent ← Run.lookUp "forloop"
      let numbers := Progression.between first.toInt last.toInt step.toInt down
      Run.forIndices (numberRound name numbers parent (executeAll expand station body)) 0
        numbers.count) := by
  cases step with
  | none => rfl
  | some step => rfl

/-- What a range loop needs to find its bounds does not touch the sink. -/
theorem silent_rangeBounds (first last : Expr) (step : Option Expr) :
    Run.Silent (fun _ => True) (rangeBounds first last step) := by
  cases step <;> exact .of_good (fun _ _ => rfl) fun _ => ⟨_, rfl, trivial⟩

/-- Nor does it touch the context. -/
theorem context_rangeBounds (first last : Expr) (step : Option Expr) (world : World) :
    (rangeBounds first last step world).2.context = world.context := by
  cases step <;> rfl

/-- The rounds of a range loop, once its bounds are found. -/
theorem writes_range_iff (station : Station) (name : String) {first last : Expr}
    {step : Option Expr} (down : Bool) (body : List Stmt) (depth : Nat)
    {before opened after : World} {text : String} {lower upper stride : Int64}
    (found : rangeBounds first last step before = (.ok (lower, upper, stride), opened)) :
    ((Stmt.within (.range name first last down step) body).execute (expand depth) station).Writes
        before text after ↔
      ∃ rounds,
        rounds.map Prod.fst = List.range
          (Progression.between lower.toInt upper.toInt stride.toInt down).count ∧
        Run.Rounds (numberRound name
          (.between lower.toInt upper.toInt stride.toInt down) (before.context.find? "forloop")
          (executeAll (expand depth) station body)) rounds opened after ∧
        text = String.join (rounds.map Prod.snd) := by
  have sameContext : opened.context = before.context := by
    rw [← context_rangeBounds first last step before, found]
  have visible : Run.lookUp "forloop" opened = (.ok (before.context.find? "forloop"), opened) := by
    rw [← sameContext]
    rfl
  have looksUp : Run.Silent (fun _ => True) (Run.lookUp "forloop") :=
    .of_good (fun _ _ => rfl) fun _ => ⟨_, rfl, trivial⟩
  rw [execute_range, Run.writes_bind_of_ok (silent_rangeBounds first last step) found,
    Run.writes_bind_of_ok looksUp visible, List.range_eq_range']
  exact Run.writes_forIndices_iff (streams_numberRound name _ _ depth station body)

/-- A range loop goes through its progression. There is a round for every number that does
not pass the last one, in order, unless there are as many as there are words. The number of
a round is a word, and stands under its name in a scope of the round's own. As long as the
rounds can be counted, the loop tells its body which one it is, and what the loop around it
is. The tag writes what its rounds write, and if its body always succeeds then so does the
tag. -/
theorem ranges_visit_progressions (station : Station) (name : String) {first last : Expr}
    {step : Option Expr} (down : Bool) (body : List Stmt) (depth : Nat) {before opened : World}
    {lower upper stride : Int64}
    (found : rangeBounds first last step before = (.ok (lower, upper, stride), opened))
    (countable : ¬ (stride.toInt = 1 ∧
      Progression.distance lower.toInt upper.toInt down = 2 ^ 64 - 1)) :
    let numbers := Progression.between lower.toInt upper.toInt stride.toInt down
    let parent := before.context.find? "forloop"
    let inside := executeAll (expand depth) station body
    let tag := (Stmt.within (.range name first last down step) body).execute (expand depth) station
    (∀ index, index < numbers.count ↔
      0 < stride.toInt ∧ Progression.Reaches down upper.toInt (numbers.term index)) ∧
    (∀ index, numbers.term index =
      if down then lower.toInt - stride.toInt * index else lower.toInt + stride.toInt * index) ∧
    (∀ index < numbers.count,
      (Int64.ofInt (numbers.term index)).toInt = numbers.term index ∧
      ∀ world, ∃ loop started,
        loopRecord index numbers.count parent world = (.ok loop, started) ∧
        HoldsRound (numberScope name (numbers.term index) loop) name (numbers.term index) loop ∧
        (numbers.count ≤ 2 ^ 63 - 1 → loop.TellsRound index numbers.count parent)) ∧
    (∀ text after, tag.Writes before text after ↔
      ∃ rounds, rounds.map Prod.fst = List.range numbers.count ∧
        Run.Rounds (numberRound name numbers parent inside) rounds opened after ∧
        text = String.join (rounds.map Prod.snd)) ∧
    ((∀ scope world, ∃ text after, (Run.inScope scope inside).Writes world text after) →
      ∃ text after, tag.Writes before text after) := by
  intro numbers parent inside tag
  have visits : ∀ index, index < numbers.count ↔
      0 < stride.toInt ∧ Progression.Reaches down upper.toInt (numbers.term index) := fun _ =>
    Progression.lt_count_iff (Progression.distance_words_le lower upper down) countable
  have writes : ∀ text after, tag.Writes before text after ↔ _ := fun text after =>
    writes_range_iff station name down body depth found
  refine ⟨visits, fun _ => rfl, fun index below => ?_, writes, fun succeeds => ?_⟩
  · obtain ⟨forward, reaches⟩ := (visits index).mp below
    have narrow : (Int64.ofInt (numbers.term index)).toInt = numbers.term index :=
      Progression.toInt_term forward reaches
    exact ⟨narrow, fun world => ⟨_, _, rfl, holdsRound_numberScope name _ narrow,
      fun small => tellsRound_loopRecord below small rfl⟩⟩
  · have rounds : ∀ index ∈ List.range numbers.count, ∀ world,
        ∃ text after, (numberRound name numbers parent inside index).Writes world text after := by
      intro index _ world
      obtain ⟨text, after, inScope⟩ := succeeds (numberScope name (numbers.term index) _) _
      exact ⟨text, after, (Run.writes_bind_of_ok (Run.silent_hosted _) rfl).mpr inScope⟩
    obtain ⟨performed, after, same, performs⟩ := Run.exists_rounds rounds opened
    exact ⟨_, after, (writes _ after).mpr ⟨performed, same, performs, rfl⟩⟩

namespace Ranging

/-- A world with nothing in it. -/
def world : World :=
  { (⟨.empty, .empty, .empty⟩ : Workshop) with turns := [], sink := .buffer "" }

/-- What is executed for each number writes it. -/
def body : List Stmt := [.output (.path ⟨"n", [], "n"⟩), .text ";"]

/-- A word, as an expression. -/
def word (number : Int64) : Expr := .literal (.integer number)

/-- A loop from the least word to the greatest in the longest steps. -/
def widest : Run Unit :=
  (Stmt.within (.range "n" (word Int64.minValue) (word Int64.maxValue) false
    (some (word Int64.maxValue))) body).execute (expand 1) (.start ⟨0, default⟩)

end Ranging

/-- From the least word to the greatest in the longest steps there are three numbers. -/
theorem ranges_visit_widest :
    let numbers := Progression.between Int64.minValue.toInt Int64.maxValue.toInt
      Int64.maxValue.toInt false
    ∃ rounds after, rounds.map Prod.fst = [0, 1, 2] ∧
      Run.Rounds (numberRound "n" numbers none
        (executeAll (expand 1) (.start ⟨0, default⟩) Ranging.body)) rounds Ranging.world after ∧
      String.join (rounds.map Prod.snd) =
        "-9223372036854775808;-1;9223372036854775806;" := by
  intro numbers
  have found : rangeBounds (Ranging.word Int64.minValue) (Ranging.word Int64.maxValue)
      (some (Ranging.word Int64.maxValue)) Ranging.world =
        (.ok (Int64.minValue, Int64.maxValue, Int64.maxValue), Ranging.world) := rfl
  have countable : ¬ (Int64.maxValue.toInt = 1 ∧
      Progression.distance Int64.minValue.toInt Int64.maxValue.toInt false = 2 ^ 64 - 1) :=
    fun single => absurd single.1 (by decide)
  have caught : (Run.capture Ranging.widest Ranging.world).1 =
      .ok "-9223372036854775808;-1;9223372036854775806;" := by decide +kernel
  have writes : Ranging.widest.Writes Ranging.world
      "-9223372036854775808;-1;9223372036854775806;"
      (Run.capture Ranging.widest Ranging.world).2 := Prod.ext caught rfl
  have three : numbers.count = 3 := by decide
  obtain ⟨-, -, -, whole, -⟩ :=
    ranges_visit_progressions (.start ⟨0, default⟩) "n" false Ranging.body 1 found countable
  obtain ⟨rounds, same, performed, written⟩ := (whole _ _).mp writes
  exact ⟨rounds, _, by rw [same, three]; rfl, performed, written.symm⟩

end Stencil
