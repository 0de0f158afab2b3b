import Stencil.Proofs.Discipline.Same
import Stencil.Proofs.Streaming

/-!
# What actions write

An action writes the text that a buffer catches of it. Since it writes the same to every sink,
a sequence writes what its parts write, one after the other. So what a loop or a walk writes
is told by what its body writes each time. An action that may go to some depth does the same
where it may go deeper, unless it exhausted the depth.
-/

namespace Stencil

namespace Run

variable {α : Type} {isGood : α → Prop} {before after : World} {text : String}

/-- Performed in one world, the action succeeds, writes the text, and leads to the other. -/
def Writes (action : Run Unit) (before : World) (text : String) (after : World) : Prop :=
  capture action before = (.ok text, after)

/-- An action writes to an empty buffer what it writes to any sink. -/
theorem Emits.buffered {action : Run Unit} {world : World} {result : Except Halt Unit}
    (emits : action.Emits world text result after) :
    action { world with sink := .buffer "" } = (result, after.withSink (.buffer text)) := by
  have whole := emits.whole (.buffer "") rfl
  rwa [Sink.write_buffer, String.empty_append] at whole

/-- What is caught of an action is what it writes to an empty buffer. -/
theorem capture_of_buffered {action : Run Unit} {world reached : World}
    {result : Except Halt Unit}
    (performed : action (world.withSink (.buffer "")) = (result, reached)) :
    capture action world =
      (result.map fun _ => reached.sink.text, reached.withSink world.sink) :=
  congrArg (fun done : Except Halt Unit × World =>
    (done.1.map fun _ => done.2.sink.text, done.2.withSink world.sink)) performed

/-- What an action writes to any sink is caught of it. -/
theorem Emits.capture_withSink {action : Run Unit} {world : World} {result : Except Halt Unit}
    (emits : action.Emits world text result after) (sink : Sink) :
    capture action (world.withSink sink) = (result.map fun _ => text, after.withSink sink) := by
  have performed : action ((world.withSink sink).withSink (.buffer "")) = _ := emits.buffered
  exact capture_of_buffered performed

/-- Doing nothing writes nothing. -/
theorem writes_pure_iff :
    (pure () : Run Unit).Writes before text after ↔ text = "" ∧ after = before := by
  constructor
  · intro writes
    obtain ⟨same, reached⟩ := Prod.mk.inj writes
    exact ⟨(Except.ok.inj same).symm, reached.symm⟩
  · rintro ⟨rfl, rfl⟩
    rfl

/-- A text is written as it is. -/
theorem writes_write_iff (content : String) :
    (write content).Writes before text after ↔ text = content ∧ after = before := by
  constructor
  · intro writes
    obtain ⟨same, reached⟩ := Prod.mk.inj writes
    have written : text = "" ++ content := (Except.ok.inj same).symm
    exact ⟨by rw [written, String.empty_append], reached.symm⟩
  · rintro ⟨rfl, rfl⟩
    simp [Writes, capture, write, Sink.text, Except.map]

section

variable {action : Run α} (silent : Silent isGood action) {next : α → Run Unit} {middle : World}
include silent

/-- If an action that does not touch the sink succeeds then what comes next writes all there is
to write. -/
theorem writes_bind_of_ok {value : α} (succeeds : action before = (.ok value, middle)) :
    (action >>= next).Writes before text after ↔ (next value).Writes middle text after := by
  have begun := silent.apply before (.buffer "")
  have kept : (action before).2.sink = before.sink :=
    congrArg (fun done => done.2.sink) (silent.apply before before.sink)
  rw [succeeds] at begun kept
  have performed : (action >>= next) (before.withSink (.buffer "")) =
      next value (middle.withSink (.buffer "")) := by
    rw [bind_apply, begun]
  have caught : capture (action >>= next) before = capture (next value) middle := by
    rw [capture_of_buffered performed, ← kept]
    rfl
  rw [Writes, Writes, caught]

/-- If it does not succeed then nothing is written. -/
theorem not_writes_bind {halt : Halt} (breaks : action before = (.error halt, middle)) :
    ¬ (action >>= next).Writes before text after := by
  have begun := silent.apply before (.buffer "")
  rw [breaks] at begun
  have performed : (action >>= next) (before.withSink (.buffer "")) =
      (.error halt, middle.withSink (.buffer "")) := by
    rw [bind_apply, begun]
  intro writes
  cases (capture_of_buffered performed).symm.trans writes

/-- An action that does not touch the sink is performed before anything is written. -/
theorem writes_bind_iff :
    (action >>= next).Writes before text after ↔
      ∃ value middle, action before = (.ok value, middle) ∧
        (next value).Writes middle text after := by
  constructor
  · intro writes
    rcases performed : action before with ⟨halt | value, middle⟩
    · exact absurd writes (not_writes_bind silent performed)
    · exact ⟨value, middle, rfl, (writes_bind_of_ok silent performed).mp writes⟩
  · rintro ⟨value, middle, succeeds, writes⟩
    exact (writes_bind_of_ok silent succeeds).mpr writes

end

/-- A sequence writes what its parts write. -/
theorem writes_seq_iff {first second : Run Unit} (streams : Streams (fun _ => True) first)
    (streamsToo : Streams (fun _ => True) second) :
    (first >>= fun _ => second).Writes before text after ↔
      ∃ begun middle later, first.Writes before begun middle ∧
        second.Writes middle later after ∧ text = begun ++ later := by
  obtain ⟨begun, result, middle, emits, -⟩ := streams before
  have caught : capture first before = (result.map fun _ => begun, middle.withSink before.sink) :=
    emits.capture_withSink before.sink
  cases result with
  | error halt =>
    have breaks : capture (first >>= fun _ => second) before =
        (.error halt, middle.withSink before.sink) := by
      simp only [capture, bind_apply, emits.buffered]
      rfl
    constructor
    · intro writes
      cases breaks.symm.trans writes
    · rintro ⟨_, _, _, writes, -⟩
      cases caught.symm.trans writes
  | ok _ =>
    obtain ⟨later, result, last, continues, -⟩ := streamsToo middle
    have caughtToo : capture second (middle.withSink before.sink) =
        (result.map fun _ => later, last.withSink before.sink) :=
      continues.capture_withSink before.sink
    have whole : capture (first >>= fun _ => second) before =
        (result.map fun _ => begun ++ later, last.withSink before.sink) := by
      simp only [capture, bind_apply, emits.buffered, continues.whole (.buffer begun) rfl]
      rfl
    constructor
    · intro writes
      have same := whole.symm.trans writes
      cases result with
      | error halt => cases same
      | ok _ =>
        cases same
        exact ⟨begun, _, later, caught, caughtToo, rfl⟩
    · rintro ⟨_, _, _, writes, writesToo, rfl⟩
      cases caught.symm.trans writes
      have same := caughtToo.symm.trans writesToo
      cases result with
      | error halt => cases same
      | ok _ =>
        cases same
        exact whole

/-- An action in a scope of its own writes the same to every sink if the action does. -/
theorem Streams.inScope {action : Run Unit} (streams : Streams (fun _ => True) action)
    (scope : Named Value) : Streams (fun _ => True) (Run.inScope scope action) :=
  streams.between (fun _ _ => rfl) (fun _ _ => rfl)

/-- What needs the host's side only does not touch the sink. -/
theorem silent_hosted (action : Hosted α) : Silent (fun _ => True) (hosted action) :=
  .of_good (fun _ _ => rfl) fun _ => ⟨_, rfl, trivial⟩

/-- Nor does finding the value of an expression. -/
theorem silent_evaluate (expression : Expr) : Silent (fun _ => True) (evaluate expression) :=
  .of_good (fun _ _ => rfl) fun _ => ⟨_, rfl, trivial⟩

/-- Rounds are performed one after the other. Each writes its text, and leads to the world
that the next begins in. -/
inductive Rounds {β : Type} (round : β → Run Unit) : List (β × String) → World → World → Prop
  | done (world : World) : Rounds round [] world world
  | next {item : β} {text : String} {rest : List (β × String)} {before middle after : World} :
    (round item).Writes before text middle → Rounds round rest middle after →
      Rounds round ((item, text) :: rest) before after

/-- If every round succeeds then all do, one after the other. -/
theorem exists_rounds {β : Type} {round : β → Run Unit} {items : List β}
    (succeeds : ∀ item ∈ items, ∀ world, ∃ text after, (round item).Writes world text after)
    (before : World) : ∃ rounds after, rounds.map Prod.fst = items ∧
      Rounds round rounds before after := by
  induction items generalizing before with
  | nil => exact ⟨[], before, rfl, .done before⟩
  | cons item rest inductionHypothesis =>
    obtain ⟨text, middle, writes⟩ := succeeds item List.mem_cons_self before
    have later : ∀ item ∈ rest, ∀ world, ∃ text after, (round item).Writes world text after :=
      fun other member => succeeds other (List.mem_cons_of_mem _ member)
    obtain ⟨rounds, after, same, onward⟩ := inductionHypothesis later middle
    exact ⟨(item, text) :: rounds, after, by rw [List.map_cons, same], .next writes onward⟩

/-- What an action does for as many indices as there are, it does round by round. -/
theorem writes_forIndices_iff {round : Nat → Run Unit}
    (streams : ∀ index, Streams (fun _ => True) (round index)) {index remaining : Nat} :
    (forIndices round index remaining).Writes before text after ↔
      ∃ rounds, rounds.map Prod.fst = List.range' index remaining ∧
        Rounds round rounds before after ∧ text = String.join (rounds.map Prod.snd) := by
  have streamsAll : ∀ remaining index, Streams (fun _ => True) (forIndices round index remaining) :=
    fun remaining index => by
      induction remaining generalizing index with
      | zero => exact Streams.pure () trivial
      | succ remaining inductionHypothesis =>
        exact (streams index).bind fun _ _ => inductionHypothesis (index + 1)
  induction remaining generalizing index before text with
  | zero =>
    rw [forIndices, writes_pure_iff]
    constructor
    · rintro ⟨rfl, rfl⟩
      exact ⟨[], rfl, .done _, rfl⟩
    · rintro ⟨rounds, none, performed, rfl⟩
      obtain rfl := List.map_eq_nil_iff.mp none
      cases performed
      exact ⟨rfl, rfl⟩
  | succ remaining inductionHypothesis =>
    rw [forIndices, writes_seq_iff (streams index) (streamsAll remaining (index + 1))]
    constructor
    · rintro ⟨begun, middle, later, writes, onward, rfl⟩
      obtain ⟨rounds, same, performed, rfl⟩ := inductionHypothesis.mp onward
      refine ⟨(index, begun) :: rounds, ?_, .next writes performed, ?_⟩
      · rw [List.map_cons, same, List.range'_succ]
      · rw [List.map_cons, String.join_cons]
    · rintro ⟨rounds, same, performed, rfl⟩
      cases performed with
      | done => cases same
      | next writes onward =>
        rw [List.map_cons, List.range'_succ] at same
        obtain ⟨rfl, others⟩ := List.cons.inj same
        exact ⟨_, _, _, writes, inductionHypothesis.mpr ⟨_, others, onward, rfl⟩, by
          rw [List.map_cons, String.join_cons]⟩

end Run

/-- Statements write the same to every sink. -/
theorem streams_executeAll (depth : Nat) (station : Station) (statements : List Stmt) :
    Run.Streams (fun _ => True) (executeAll (expand depth) station statements) := by
  have follows : streaming.Follows (expand depth) (expand depth) :=
    fun _ station goal _ => streams_expand depth station goal
  exact streaming_sound.executeAll follows statements () station fun _ _ => trivial

namespace Run

variable {α : Type}

/-- An action does the same with more depth, unless it exhausts what it has. -/
def Deepens (action : Nat → Run α) : Prop :=
  ∀ depth deeper, depth ≤ deeper → ∀ world,
    (action depth world).1 ≠ .error .exhausted → action deeper world = action depth world

/-- What it writes it writes with more depth. -/
theorem Deepens.writes {action : Nat → Run Unit} (deepens : Deepens action) {depth deeper : Nat}
    (more : depth ≤ deeper) {before after : World} {text : String}
    (writes : (action depth).Writes before text after) :
    (action deeper).Writes before text after := by
  have ends : (action depth { before with sink := .buffer "" }).1 ≠ .error .exhausted := by
    intro exhausts
    rw [Writes, capture, exhausts] at writes
    cases writes
  rw [Writes, capture, deepens _ _ more _ ends]
  exact writes

/-- So it is in a scope. -/
theorem Deepens.inScope {action : Nat → Run α} (deepens : Deepens action) (scope : Named Value) :
    Deepens fun depth => Run.inScope scope (action depth) := by
  intro depth deeper more world ends
  have same := deepens _ _ more { world with context := world.context.push scope } ends
  simp only [Run.inScope, between, same]

end Run

/-- More depth changes nothing for statements. -/
theorem deepens_executeAll (station : Station) (statements : List Stmt) :
    Run.Deepens fun depth => executeAll (expand depth) station statements := by
  intro depth deeper more world ends
  obtain ⟨rest, rfl⟩ := Nat.exists_eq_add_of_le more
  have keeps := Discipline.same_lawful.executeAll
    (Discipline.Follows.of_keeps fun _ => Discipline.same_deeper depth rest) statements () station
    trivial (allObey_free statements)
  rcases Discipline.same_outcome keeps world with ⟨halt, rfl, exhausts⟩ | agrees
  · exact absurd exhausts ends
  · exact agrees.symm

end Stencil
