import Stencil.Proofs.Naming
import Stencil.Proofs.Printing.RoundTrip

/-!
# Dotted names and paths

A dotted name is looked up in a context, and read as a path by a template. The look-up splits the
name at its dots and reads each segment as an index if it can; the lexer and the parser tell
indexes and names apart before anything is looked up. The look-up calls a callable as soon as it
comes to it, the path when it leads on from it. Nonetheless both come to the same value, and both
call the same callables in the same order: only the path tells the journal where it led nowhere.
-/

namespace Stencil

/-- A computation that also tells which callables it calls: their marks, first to last. -/
abbrev Told (α : Type) := StateT (List Nat) Hosted α

namespace Told

/-- But for what it tells of, it comes to the same as another one. -/
def TellsOf {α : Type} (told : Told α) (plain : Hosted α) : Prop :=
  ∀ (calls : List Nat) (host : Host),
    ((told calls host).1.1, (told calls host).2) = plain host

/-- So does a value. -/
theorem TellsOf.pure {α : Type} (value : α) :
    TellsOf (Pure.pure value : Told α) (Pure.pure value) :=
  fun _ _ => rfl

/-- So does a sequence, if its parts do. -/
theorem TellsOf.bind {α β : Type} {told : Told α} {plain : Hosted α} {toldNext : α → Told β}
    {plainNext : α → Hosted β} (first : TellsOf told plain)
    (onward : ∀ value, TellsOf (toldNext value) (plainNext value)) :
    TellsOf (told >>= toldNext) (plain >>= plainNext) := by
  intro calls host
  have begun := first calls host
  have later := onward (told calls host).1.1 (told calls host).1.2 (told calls host).2
  have sequence : (plain >>= plainNext) host = plainNext (plain host).1 (plain host).2 := rfl
  rw [sequence, ← begun]
  exact later

/-- The callables that were lent, after those under some marks were called without arguments. -/
def called (made : List Nat) (lent : List Lent) : List Lent :=
  lent.map fun lent =>
    { lent with calls := List.replicate (made.count lent.mark) [] ++ lent.calls }

/-- Calls made one after the other add up. -/
theorem called_append (first later : List Nat) (lent : List Lent) :
    called later (called first lent) = called (first ++ later) lent := by
  unfold called
  rw [List.map_map]
  apply List.map_congr_left
  intro one _
  simp only [Function.comp_apply, List.count_append, ← List.append_assoc,
    List.replicate_append_replicate, Nat.add_comm]

/-- What is told of is what was called: no call is left out, and none is made up. -/
def Accounts {α : Type} (told : Told α) : Prop :=
  ∀ (calls : List Nat) (host : Host), ∃ made, (told calls host).1.2 = calls ++ made ∧
    (told calls host).2.lent = called made host.lent

/-- A computation that calls nothing tells of nothing. -/
theorem Accounts.of_idle {α : Type} {told : Told α}
    (idle : ∀ calls host, (told calls host).1.2 = calls ∧ (told calls host).2.lent = host.lent) :
    Accounts told := by
  intro calls host
  obtain ⟨nothing, same⟩ := idle calls host
  exact ⟨[], by rw [nothing, List.append_nil], by rw [same]; simp [called]⟩

/-- A sequence accounts for its calls if its parts do. -/
theorem Accounts.bind {α β : Type} {told : Told α} {next : α → Told β} (first : Accounts told)
    (onward : ∀ value, Accounts (next value)) : Accounts (told >>= next) := by
  intro calls host
  obtain ⟨made, tells, lent⟩ := first calls host
  obtain ⟨later, tellsLater, lentLater⟩ :=
    onward (told calls host).1.1 (told calls host).1.2 (told calls host).2
  refine ⟨made ++ later, ?_, ?_⟩
  · rw [← List.append_assoc, ← tells]
    exact tellsLater
  · rw [← called_append, ← lent]
    exact lentLater

end Told

/-- The answer of a callable to no arguments, told of; any other value itself. -/
def Value.invokedTold (value : Value) : Told Value :=
  match value.datum with
  | .callable mark => do
    modify (· ++ [mark])
    Host.call mark []
  | _ => return value

namespace Context

/-- What a segment of a dotted name leads to from a value. -/
def leadFrom (value : Value) (segment : String) : Option Value :=
  match Text.readIndex segment with
  | some index => value.element? index
  | none => value.field? segment

/-- A dotted name is followed segment by segment. -/
theorem follow_cons (value : Value) (segment : String) (rest : List String) :
    follow value (segment :: rest) = match leadFrom value segment with
      | some found => do follow (← found.invoked) rest
      | none => return Value.none := rfl

/-- Follows the segments of a dotted name, and tells of the calls. -/
def followTold (value : Value) : List String → Told Value
  | [] => return value
  | segment :: rest =>
    match leadFrom value segment with
    | some found => do followTold (← found.invokedTold) rest
    | none => return Value.none

/-- Looks a dotted name up, and tells of the calls. -/
def getTold (context : Context) (name : String) : Told Value :=
  match (splitOn (· = '.') name.toList).map String.ofList with
  | [] => return .none
  | first :: rest =>
    match context.find? first with
    | some value => do followTold (← value.invokedTold) rest
    | none => return .none

end Context

namespace Path

/-- Follows the segments of a path, and tells of the calls. -/
def followTold (value : Value) : List Key → Told Value
  | [] => return value
  | key :: rest => do
    let within ← value.invokedTold
    match key.leadFrom within with
    | some next => followTold next rest
    | none =>
      Host.note (.noSuchSegment key.text within.label)
      return .none

/-- Finds what a path leads to, and tells of the calls. -/
def resolveTold (context : Context) (path : Path) : Told Value :=
  match context.find? path.head with
  | some value => followTold value path.keys
  | none => do
    Host.note (.unknownVariable path.head)
    return .none

/-- Finds the value of a path, and tells of the calls. -/
def evaluateTold (context : Context) (path : Path) : Told Value := do
  (← path.resolveTold context).invokedTold

end Path

section

open Told

/-- Telling of a call leaves it as it is. -/
theorem Value.tellsOf_invoked (value : Value) : TellsOf value.invokedTold value.invoked := by
  obtain ⟨datum, raw⟩ := value
  cases datum with
  | callable mark => exact fun _ _ => rfl
  | _ => exact .pure _

/-- So it leaves the look-up of a dotted name. -/
theorem Context.tellsOf_follow (value : Value) (segments : List String) :
    TellsOf (followTold value segments) (follow value segments) := by
  induction segments generalizing value with
  | nil => exact .pure value
  | cons segment rest inductionHypothesis =>
    rw [followTold, follow_cons]
    cases leadFrom value segment with
    | some found => exact found.tellsOf_invoked.bind inductionHypothesis
    | none => exact .pure Value.none

/-- That of the whole name, too. -/
theorem Context.tellsOf_get (context : Context) (name : String) :
    TellsOf (context.getTold name) (context.get name) := by
  unfold getTold get
  cases (splitOn (· = '.') name.toList).map String.ofList with
  | nil => exact .pure Value.none
  | cons first rest =>
    dsimp only
    cases context.find? first with
    | some value => exact value.tellsOf_invoked.bind fun value => tellsOf_follow value rest
    | none => exact .pure Value.none

/-- And the way of a path. -/
theorem Path.tellsOf_follow (value : Value) (keys : List Key) :
    TellsOf (followTold value keys) (follow value keys) := by
  induction keys generalizing value with
  | nil => exact .pure value
  | cons key rest inductionHypothesis =>
    apply value.tellsOf_invoked.bind
    intro within
    cases key.leadFrom within with
    | some next => exact inductionHypothesis next
    | none => exact fun _ _ => rfl

/-- And its value. -/
theorem Path.tellsOf_evaluate (filters : Named Filter) (context : Context) (path : Path) :
    TellsOf (path.evaluateTold context) ((Expr.path path).evaluate filters context) := by
  have found : TellsOf (path.resolveTold context) (path.resolve context) := by
    unfold resolveTold resolve
    cases context.find? path.head with
    | some value => exact tellsOf_follow value path.keys
    | none => exact fun _ _ => rfl
  exact found.bind Value.tellsOf_invoked

/-- A call is kept with the callable that was called, and leaves the journal as it is. -/
theorem Host.after_call (mark : Nat) (host : Host) :
    (Host.call mark [] host).2.lent = called [mark] host.lent ∧
      (Host.call mark [] host).2.records = host.records := by
  have looks : ∀ next : Host → Hosted Value, (get >>= next) host = next host host := fun _ => rfl
  rw [Host.call, looks]
  cases found : host.lent.find? fun lent => lent.mark = mark with
  | none =>
    refine ⟨?_, rfl⟩
    have others : ∀ lent ∈ host.lent, [mark].count lent.mark = 0 := by
      intro lent mem
      have other := List.find?_eq_none.mp found lent mem
      simp only [decide_eq_true_eq] at other
      simp [Ne.symm other]
    show host.lent = called [mark] host.lent
    refine (List.map_id _).symm.trans (List.map_congr_left fun lent mem => ?_)
    simp [others lent mem]
  | some lent =>
    refine ⟨List.map_congr_left fun one _ => ?_, rfl⟩
    by_cases same : one.mark = mark
    · simp [same]
    · simp [same, Ne.symm same]

/-- What a value tells of is what it calls. -/
theorem Value.accounts_invoked (value : Value) : Accounts value.invokedTold := by
  obtain ⟨datum, raw⟩ := value
  cases datum with
  | callable mark => exact fun calls host => ⟨[mark], rfl, (Host.after_call mark host).1⟩
  | _ => exact .of_idle fun _ _ => ⟨rfl, rfl⟩

/-- What a path tells of is what it calls on its way. -/
theorem Path.accounts_follow (value : Value) (keys : List Key) :
    Accounts (followTold value keys) := by
  induction keys generalizing value with
  | nil => exact .of_idle fun _ _ => ⟨rfl, rfl⟩
  | cons key rest inductionHypothesis =>
    apply value.accounts_invoked.bind
    intro within
    cases key.leadFrom within with
    | some next => exact inductionHypothesis next
    | none => exact .of_idle fun _ _ => ⟨rfl, rfl⟩

/-- And at its end. -/
theorem Path.accounts_evaluate (context : Context) (path : Path) :
    Accounts (path.evaluateTold context) := by
  have found : Accounts (path.resolveTold context) := by
    unfold resolveTold
    cases context.find? path.head with
    | some value => exact accounts_follow value path.keys
    | none => exact .of_idle fun _ _ => ⟨rfl, rfl⟩
  exact found.bind Value.accounts_invoked

end

namespace Text

/-- A segment of a path: a name, or a numeral of an index that can be written. -/
def isSegment (segment : String) : Bool :=
  isName segment || (readDigits segment.toList).any (· < wordCount)

end Text

/-- The segment of a path that a text is read as. -/
def Key.ofSegment (segment : String) : Key :=
  match Text.readDigits segment.toList with
  | some number => .index number segment
  | none => .field segment

/-- The segments of a name behind one another, with dots between them. -/
def dotted (head : String) (segments : List String) : String :=
  String.ofList (joinWith '.' ((head :: segments).map String.toList))

/-- The path that a dotted name is read as. -/
def Path.ofSegments (head : String) (segments : List String) : Path :=
  ⟨head, segments.map Key.ofSegment, dotted head segments⟩

namespace Text

variable {segment : String}

/-- Without a sign in front, a text is read as an index if its digits are one. -/
theorem readIndex_of_unsigned (unsigned : segment.toList.head? ≠ some '+') :
    readIndex segment = (readDigits segment.toList).filter (· < wordCount) := by
  unfold readIndex
  split
  · rename_i digits same
    exact absurd (congrArg List.head? same) unsigned
  · rfl

/-- A name is no numeral. -/
theorem readIndex_of_isName (isName : isName segment = true) :
    readDigits segment.toList = none ∧ readIndex segment = none := by
  unfold Text.isName at isName
  split at isName
  · cases isName
  · rename_i c rest same
    simp only [Bool.and_eq_true] at isName
    have notDigit : isDigit c = false := by
      refine Bool.eq_false_iff.mpr fun digit => ?_
      exact not_mem_of_kind isName.1 (by decide) (mem_of_isDigit digit)
    have unread : readDigits segment.toList = none := by simp [readDigits, same, notDigit]
    have unsigned : segment.toList.head? ≠ some '+' := by
      rw [same]
      exact fun sign => ne_of_kind isName.1 (by decide) (Option.some.inj sign)
    rw [readIndex_of_unsigned unsigned, unread]
    exact ⟨rfl, rfl⟩

/-- Digits are read as the index that they are the numeral of, if it can be written. -/
theorem readIndex_of_readDigits {number : Nat} (read : readDigits segment.toList = some number) :
    readIndex segment = (some number).filter (· < wordCount) := by
  obtain ⟨_, all, _⟩ := digits_of_readDigits read
  rw [readIndex_of_unsigned, read]
  intro sign
  exact absurd (all '+' (List.mem_of_head? sign)) (by decide)

/-- A segment is a name and no index, or an index and no name. -/
theorem cases_of_isSegment (isSegment : isSegment segment = true) :
    (isName segment = true ∧ Key.ofSegment segment = .field segment ∧
        readIndex segment = none) ∨
      ∃ number, readDigits segment.toList = some number ∧ number < wordCount ∧
        Key.ofSegment segment = .index number segment ∧ readIndex segment = some number := by
  unfold Text.isSegment at isSegment
  rcases Bool.or_eq_true_iff.mp isSegment with isName | isIndex
  · obtain ⟨unread, noIndex⟩ := readIndex_of_isName isName
    exact .inl ⟨isName, by rw [Key.ofSegment, unread], noIndex⟩
  · cases read : readDigits segment.toList with
    | none => simp [read] at isIndex
    | some number =>
      have fits : number < wordCount := by simpa [read] using isIndex
      have index := readIndex_of_readDigits read
      rw [Option.filter_some, if_pos (by simpa using fits)] at index
      exact .inr ⟨number, rfl, fits, by rw [Key.ofSegment, read], index⟩

/-- It holds no dot. -/
theorem ne_dot_of_isSegment (isSegment : isSegment segment = true) :
    ∀ c ∈ segment.toList, c ≠ '.' := by
  intro c mem
  rcases cases_of_isSegment isSegment with ⟨isName, _⟩ | ⟨number, read, _⟩
  · unfold Text.isName at isName
    split at isName
    · cases isName
    · rename_i d rest same
      simp only [Bool.and_eq_true, List.all_eq_true] at isName
      rw [same] at mem
      rcases List.mem_cons.mp mem with rfl | later
      · exact ne_of_kind isName.1 (by decide)
      · exact ne_of_kind (isName.2 c later) (by decide)
  · exact ne_of_kind ((digits_of_readDigits read).2.1 c mem) (by decide)

end Text

namespace Key

variable {segment : String}

/-- The word of a segment is made of its characters. -/
theorem text_origin_ofSegment (segment : String) :
    (ofSegment segment).origin.text = segment.toList := by
  unfold ofSegment
  cases Text.readDigits segment.toList <;> rfl

/-- It is legible, and tallies. -/
theorem legible_ofSegment (isSegment : Text.isSegment segment = true) :
    (ofSegment segment).legible = true ∧ (ofSegment segment).tallies = true := by
  rcases Text.cases_of_isSegment isSegment with ⟨isName, same, _⟩ | ⟨number, read, fits, same, _⟩
  · rw [same]
    exact ⟨isName, rfl⟩
  · rw [same]
    exact ⟨by simp [legible, read], by simp [tallies, read, fits]⟩

/-- A path leads on from it as the look-up of a name does. -/
theorem leadFrom_ofSegment (isSegment : Text.isSegment segment = true) (value : Value) :
    (ofSegment segment).leadFrom value = Context.leadFrom value segment := by
  unfold Context.leadFrom
  rcases Text.cases_of_isSegment isSegment with ⟨_, same, index⟩ | ⟨number, _, _, same, index⟩
  · rw [same, index]
    rfl
  · rw [same, index]
    rfl

end Key

section

variable {segments : List String}

/-- The call of a value leaves the journal as it is. -/
theorem Value.records_invokedTold (value : Value) (calls : List Nat) (host : Host) :
    (value.invokedTold calls host).2.records = host.records := by
  obtain ⟨datum, raw⟩ := value
  cases datum with
  | callable mark => exact (Host.after_call mark host).2
  | _ => rfl

/-- A path leads on from the value of what it starts from. -/
theorem Path.followTold_cons (value : Value) (key : Key) (rest : List Key)
    (next : Value → Told Value) (calls : List Nat) (host : Host) :
    let reached := value.invokedTold calls host
    (followTold value (key :: rest) >>= next) calls host =
      ((match key.leadFrom reached.1.1 with
        | some found => followTold found rest
        | none => do
          Host.note (.noSuchSegment key.text reached.1.1.label)
          return Value.none) >>= next) reached.1.2 reached.2 := rfl

/-- So does a dotted name. -/
theorem Context.followTold_cons (value : Value) (segment : String) (rest : List String)
    (calls : List Nat) (host : Host) :
    let reached := value.invokedTold calls host
    (do followTold (← value.invokedTold) (segment :: rest)) calls host =
      (match leadFrom reached.1.1 segment with
        | some found => do followTold (← found.invokedTold) rest
        | none => return Value.none) reached.1.2 reached.2 := rfl

/-- Where a path is followed and the value at its end is called, the look-up of a name calls
what it starts from and follows the same segments. But for the journal both come to the same. -/
theorem follow_eq (areSegments : ∀ segment ∈ segments, Text.isSegment segment = true)
    (value : Value) (calls : List Nat) (host : Host) :
    (do Context.followTold (← value.invokedTold) segments) calls host =
      let evaluated := (do
        (← Path.followTold value (segments.map Key.ofSegment)).invokedTold) calls host
      (evaluated.1, { evaluated.2 with records := host.records }) := by
  induction segments generalizing value calls host with
  | nil =>
    have kept := value.records_invokedTold calls host
    show value.invokedTold calls host = ((value.invokedTold calls host).1,
      { (value.invokedTold calls host).2 with records := host.records })
    rw [← kept]
    rfl
  | cons segment rest inductionHypothesis =>
    obtain ⟨isSegment, others⟩ := List.forall_mem_cons.mp areSegments
    have kept := value.records_invokedTold calls host
    dsimp only
    rw [List.map_cons, Path.followTold_cons, Context.followTold_cons,
      Key.leadFrom_ofSegment isSegment]
    cases Context.leadFrom (value.invokedTold calls host).1.1 segment with
    | some found =>
      have onward := inductionHypothesis others found (value.invokedTold calls host).1.2
        (value.invokedTold calls host).2
      rw [kept] at onward
      exact onward
    | none =>
      -- the journal is all that the path leaves behind where it leads nowhere
      show ((Value.none, (value.invokedTold calls host).1.2), (value.invokedTold calls host).2) =
        ((Value.none, (value.invokedTold calls host).1.2),
          { (value.invokedTold calls host).2 with records := host.records })
      rw [← kept]

variable {head : String}

/-- A dotted name is split into its segments again. -/
theorem segments_dotted (isName : Text.isName head = true)
    (areSegments : ∀ segment ∈ segments, Text.isSegment segment = true) :
    (splitOn (· = '.') (dotted head segments).toList).map String.ofList = head :: segments := by
  have dotless : ∀ run ∈ (head :: segments).map String.toList, ∀ c ∈ run,
      decide (c = '.') = false := by
    intro run mem c inRun
    obtain ⟨segment, isOne, rfl⟩ := List.mem_map.mp mem
    have isSegment : Text.isSegment segment = true := by
      rcases List.mem_cons.mp isOne with rfl | later
      · simp [Text.isSegment, isName]
      · exact areSegments segment later
    exact decide_eq_false (Text.ne_dot_of_isSegment isSegment c inRun)
  rw [dotted, String.toList_ofList, splitOn_joinWith (by decide) (by simp) dotless, List.map_map]
  simp

/-- But for the journal, the look-up of a dotted name comes to the same as the path, and calls
the same callables in the same order. -/
theorem Context.getTold_dotted (context : Context) (isName : Text.isName head = true)
    (areSegments : ∀ segment ∈ segments, Text.isSegment segment = true) (calls : List Nat)
    (host : Host) :
    context.getTold (dotted head segments) calls host =
      let evaluated := (Path.ofSegments head segments).evaluateTold context calls host
      (evaluated.1, { evaluated.2 with records := host.records }) := by
  have looks : context.getTold (dotted head segments) = match context.find? head with
      | some value => do followTold (← value.invokedTold) segments
      | none => return Value.none := by
    rw [getTold, segments_dotted isName areSegments]
  have begins : (Path.ofSegments head segments).resolveTold context =
      match context.find? head with
      | some value => Path.followTold value (segments.map Key.ofSegment)
      | none => do
        Host.note (.unknownVariable head)
        return Value.none := rfl
  rw [looks, Path.evaluateTold, begins]
  cases context.find? head with
  | some value => exact follow_eq areSegments value calls host
  | none => rfl

/-- The words of a path are the characters of the dotted name. -/
theorem Path.spell_origin_ofSegments (head : String) (segments : List String) :
    String.ofList (Word.spell (ofSegments head segments).origin) = dotted head segments := by
  have later : ∀ first : List Char, first ++ Word.spell (originKeys (segments.map Key.ofSegment)) =
      joinWith '.' (first :: segments.map String.toList) := by
    induction segments with
    | nil => simp [originKeys, joinWith]
    | cons segment rest inductionHypothesis =>
      intro first
      have onward := inductionHypothesis segment.toList
      simp only [originKeys] at onward
      simp [originKeys, joinWith, Key.text_origin_ofSegment, onward]
  exact congrArg String.ofList (later head.toList)

/-- A dotted name between the delimiters of a value compiles to its path. -/
theorem Template.compile_dotted (isName : Text.isName head = true)
    (unreserved : Keyword.ofWord? head = none)
    (areSegments : ∀ segment ∈ segments, Text.isSegment segment = true)
    (arity? : String → Option Arity) (name : Option String) :
    compile arity? name (Source.hole (dotted head segments)) =
      .ok ⟨name, Source.hole (dotted head segments),
        [.output (.path (Path.ofSegments head segments))], [], false⟩ := by
  have legible : (Path.ofSegments head segments).legible = true := by
    simp only [Path.legible, Path.ofSegments, isName, Bool.true_and, List.all_map,
      List.all_eq_true, Function.comp_apply]
    exact fun segment mem => (Key.legible_ofSegment (areSegments segment mem)).1
  have tallies : (Path.ofSegments head segments).keys.all Key.tallies = true := by
    simp only [Path.ofSegments, List.all_map, List.all_eq_true, Function.comp_apply]
    exact fun segment mem => (Key.legible_ofSegment (areSegments segment mem)).2
  have separate := Path.separate_origin legible (Option.isNone_iff_eq_none.mpr unreserved)
  have spelled := Path.spells_origin tallies (Path.spell_origin_ofSegments head segments).symm
    (Word.standAt_hole (Path.ofSegments head segments).origin)
  rw [← Path.spell_origin_ofSegments]
  exact compile_hole separate (.loosen (.path spelled) (Nat.zero_le _)) name

/-- A path and the look-up of a dotted name agree. What is made of a name and then names and
indexes that can be written, with dots between them, compiles to a path. Whatever the context and
the host are, the path and the look-up of the name come to the same value and leave the same host
behind, but for what the path notes in the journal. What tells of their calls, besides coming to
the same as they do, tells of the same callables in the same order, and those are the calls that
the host keeps. -/
theorem evaluate_path_agrees_with_get (isName : Text.isName head = true)
    (unreserved : Keyword.ofWord? head = none)
    (areSegments : ∀ segment ∈ segments, Text.isSegment segment = true) :
    (∀ (arity? : String → Option Arity) (name : Option String),
      Template.compile arity? name (Source.hole (dotted head segments)) =
        .ok ⟨name, Source.hole (dotted head segments),
          [.output (.path (Path.ofSegments head segments))], [], false⟩) ∧
    ∀ (filters : Named Filter) (context : Context) (host : Host),
      ∃ (value : Value) (calls : List Nat) (after : Host),
        (Expr.path (Path.ofSegments head segments)).evaluate filters context host =
          (value, after) ∧
        (Path.ofSegments head segments).evaluateTold context [] host = ((value, calls), after) ∧
        after.lent = Told.called calls host.lent ∧
        context.get (dotted head segments) host =
          (value, { after with records := host.records }) ∧
        context.getTold (dotted head segments) [] host =
          ((value, calls), { after with records := host.records }) := by
  refine ⟨Template.compile_dotted isName unreserved areSegments, ?_⟩
  intro filters context host
  let evaluated := (Path.ofSegments head segments).evaluateTold context [] host
  have looked := context.getTold_dotted isName areSegments [] host
  obtain ⟨made, tells, lent⟩ :=
    Path.accounts_evaluate context (Path.ofSegments head segments) [] host
  rw [List.nil_append] at tells
  refine ⟨evaluated.1.1, evaluated.1.2, evaluated.2, ?_, rfl, tells ▸ lent, ?_, looked⟩
  · exact (Path.tellsOf_evaluate filters context _ [] host).symm
  · rw [← context.tellsOf_get _ [] host, looked]

/-- Two callables that answer with records, the second under a name that is a number, and a
third that answers with a callable. -/
def thirdCall : Context × Host :=
  let callable (mark : Nat) : Value := .plain (.callable mark)
  let record (name : String) (value : Value) : Value := .plain (.record 3 none [(name, value)])
  (.ofEntries [("a", callable 0)],
    { Host.empty with
      unused := 4
      lent := [⟨0, .returning (record "or" (callable 1)), []⟩,
        ⟨1, .returning (record "7" (callable 2)), []⟩, ⟨2, .returning (callable 1), []⟩] })

/-- Through a keyword and a numeral with a leading zero, each of them is called once, and what
the last one answers is not called. -/
theorem evaluate_path_agrees_thirdCall :
    Text.isName "a" = true ∧ Keyword.ofWord? "a" = none ∧
      (∀ segment ∈ ["or", "07"], Text.isSegment segment = true) ∧
      (∃ template, Template.compile (fun _ => none) none (Source.hole "a.or.07") = .ok template ∧
        template.body = [.output (.path (Path.ofSegments "a" ["or", "07"]))]) ∧
      ∃ after,
        (Expr.path (Path.ofSegments "a" ["or", "07"])).evaluate [] thirdCall.1 thirdCall.2 =
          (.plain (.callable 1), after) ∧
        thirdCall.1.get "a.or.07" thirdCall.2 =
          (.plain (.callable 1), { after with records := [] }) ∧
        thirdCall.1.getTold "a.or.07" [] thirdCall.2 =
          ((.plain (.callable 1), [0, 1, 2]), { after with records := [] }) := by
  have isName : Text.isName "a" = true := by decide
  have unreserved : Keyword.ofWord? "a" = none := by decide
  have areSegments : ∀ segment ∈ ["or", "07"], Text.isSegment segment = true := by decide
  have written : dotted "a" ["or", "07"] = "a.or.07" := by decide
  obtain ⟨compiles, agrees⟩ := evaluate_path_agrees_with_get isName unreserved areSegments
  obtain ⟨value, calls, after, evaluated, told, -, looked, lookedTold⟩ :=
    agrees [] thirdCall.1 thirdCall.2
  have found : ((Path.ofSegments "a" ["or", "07"]).evaluateTold thirdCall.1 [] thirdCall.2).1 =
      (.plain (.callable 1), [0, 1, 2]) := by rfl
  rw [told] at found
  obtain ⟨rfl, rfl⟩ := Prod.mk.inj found
  rw [written] at compiles looked lookedTold
  exact ⟨isName, unreserved, areSegments, ⟨_, compiles _ none, rfl⟩, after, evaluated, looked,
    lookedTold⟩

end

end Stencil
