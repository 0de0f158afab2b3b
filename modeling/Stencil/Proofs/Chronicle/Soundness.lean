import Stencil.Proofs.Chronicle.Course
import Stencil.Proofs.Chronicle.Tellings
import Stencil.Proofs.Safety

/-!
# Chronicles tell of courses of events

Whatever is executed, its chronicle is a course of events: from the world that it begins
in to the one that it ends in, with the same tags underway at the end if it comes to one,
and with the tags underway that a halt tells of if it does not. This is shown for actions
of which nothing is told, for sequences and for changes for a time, for the tags that lead
to other templates, and from there for all statements and goals.
-/

namespace Stencil

namespace Account

variable {α β : Type} {root : Handle} {gates : List Gate} {held : List Handle} {world : World}

namespace Proceeds

/-- A sequence proceeds if its parts do. -/
theorem bind {first : Account α} {next : α → Account β} (begun : first.Proceeds root gates world)
    (onward : ∀ value after, first.run world = (.ok value, after) → world.Holds after →
      (next value).Proceeds root gates after) :
    (first >>= next).Proceeds root gates world := by
  obtain ⟨told, reached, refused, same, course, ending⟩ := begun
  rw [Proceeds, events_bind, run_bind, Run.bind_apply]
  rcases done : first.run world with ⟨halt | value, after⟩
  · rw [done] at course ending
    exact ⟨told, reached, refused, by simp [same], course, ending⟩
  · rw [done] at course ending
    obtain ⟨rfl, rfl⟩ := ending
    obtain ⟨later, reached, refused, sameLater, courseLater, endingLater⟩ :=
      onward value after done course.holds
    exact ⟨told ++ later, reached, refused, by simp [same, sameLater],
      course.append courseLater, endingLater⟩

/-- A modest action of which nothing is told proceeds. -/
theorem silent {action : Run α} (modest : action.Modest (gates.map Gate.site)) :
    (Account.silent action).Proceeds root gates world := by
  refine ⟨[], gates, none, rfl,
    .quietly (.of_same (modest.catalogue world)) (modest.turns world) .still, ?_⟩
  show Outcome gates gates none (action world).1
  cases ended : (action world).1 with
  | ok value => exact ⟨rfl, rfl⟩
  | error halt => exact modest.halts world halt ended

/-- An account proceeds inside of a change for a time, which halts if it halts. -/
theorem inside {account : Account α} {enter : World → World} {change : Run α → Run β}
    (inner : account.Proceeds root gates (enter world))
    (entering : world.Holds (enter world)) (turns : (enter world).turns = world.turns)
    (leaving : (account.run (enter world)).2.Holds (change account.run world).2)
    (turnsLeaving : (change account.run world).2.turns = (account.run (enter world)).2.turns)
    (ends : ∀ value, (account.run (enter world)).1 = .ok value →
      ∃ found, (change account.run world).1 = .ok found)
    (halts : ∀ halt, (account.run (enter world)).1 = .error halt →
      (change account.run world).1 = .error halt) :
    (account.inside enter change).Proceeds root gates world := by
  obtain ⟨told, reached, refused, same, course, ending⟩ := inner
  refine ⟨told, reached, refused, same, course.between entering turns leaving turnsLeaving, ?_⟩
  show Outcome gates reached refused (change account.run world).1
  cases ended : (account.run (enter world)).1 with
  | ok value =>
    obtain ⟨found, done⟩ := ends value ended
    rw [ended] at ending
    rw [done]
    exact ending
  | error halt =>
    rw [ended] at ending
    rw [halts halt ended]
    exact ending

/-- An account that gives a handle back in the end proceeds. -/
theorem releasing {account : Account α} {handle : Handle}
    (inner : account.Proceeds root gates world) :
    (account.releasing handle).Proceeds root gates world :=
  inner.inside (.of_same rfl) rfl
    ⟨Catalogue.keeps_recount _ _ _, Catalogue.depthLimit_release _ _⟩ rfl
    (fun value ended => ⟨value, ended⟩) fun _ ended => ended

/-- What a tag leads to proceeds with the tag underway. -/
theorem through {account : Account α} {gate : Gate} {target : Handle} {name : String}
    (inner : account.Proceeds root (gates ++ [gate]) world)
    (shallow : gates.length < world.catalogue.depthLimit) (placed : gate.Placed)
    (known : world.catalogue.Knows root gate.handle)
    (shelved : world.catalogue.shelved? name = some target) :
    (account.through gate target).Proceeds root gates world := by
  obtain ⟨told, reached, refused, same, course, ending⟩ := inner
  have entered : Event.Happens root gates world (.entered gate target) (gates ++ [gate]) world :=
    .enter shallow placed known shelved
  have run : (account.through gate target).run = account.run := rfl
  rw [Proceeds, events_through, run]
  cases ended : (account.run world).1 with
  | error halt =>
    rw [ended] at ending
    exact ⟨.entered gate target :: told, reached, refused, by simp [same],
      .eventfully entered course, ending⟩
  | ok value =>
    rw [ended] at ending
    obtain ⟨rfl, rfl⟩ := ending
    have left : Course root (gates ++ [gate]) (account.run world).2 [.left gate] gates
        (account.run world).2 := .eventfully .leave .still
    exact ⟨.entered gate target :: told ++ [.left gate], gates, none, by simp [same],
      .eventfully entered (course.append left), rfl, rfl⟩

end Proceeds

/-- The account proceeds where some tags are underway, whenever some templates are known. -/
def Steady (root : Handle) (gates : List Gate) (held : List Handle) (account : Account α) : Prop :=
  ∀ world, (∀ handle ∈ held, world.catalogue.Knows root handle) →
    account.Proceeds root gates world

namespace Steady

/-- A sequence does if its parts do. -/
theorem bind {first : Account α} {next : α → Account β} (begun : first.Steady root gates held)
    (onward : ∀ value, (next value).Steady root gates held) :
    (first >>= next).Steady root gates held :=
  fun world known => (begun world known).bind fun value after _ holds =>
    onward value after fun handle member => holds.knows (known handle member)

/-- A modest action does. -/
theorem silent {action : Run α} (modest : action.Modest (gates.map Gate.site)) :
    (Account.silent action).Steady root gates held :=
  fun _ _ => .silent modest

/-- A value does. -/
theorem pure (value : α) : (Pure.pure value : Account α).Steady root gates held :=
  silent (.of_ok (fun _ => rfl) (fun _ => rfl) fun _ => ⟨value, rfl⟩)

/-- More templates may be known. -/
theorem weaken {account : Account α} {fewer : List Handle}
    (steady : account.Steady root gates fewer) (among : ∀ handle ∈ fewer, handle ∈ held) :
    account.Steady root gates held :=
  fun world known => steady world fun handle member => known handle (among handle member)

/-- So does an account inside of a change for a time that has nothing to do with the
catalogue and the cycle tags. -/
theorem inside {account : Account α} {enter : World → World} {change : Run α → Run β}
    (steady : account.Steady root gates held)
    (entering : ∀ world, (enter world).catalogue = world.catalogue)
    (turns : ∀ world, (enter world).turns = world.turns)
    (leaving : ∀ world, (change account.run world).2.catalogue =
      (account.run (enter world)).2.catalogue)
    (turnsLeaving : ∀ world, (change account.run world).2.turns =
      (account.run (enter world)).2.turns)
    (ends : ∀ world value, (account.run (enter world)).1 = .ok value →
      ∃ found, (change account.run world).1 = .ok found)
    (halts : ∀ world halt, (account.run (enter world)).1 = .error halt →
      (change account.run world).1 = .error halt) :
    (account.inside enter change).Steady root gates held := by
  intro world known
  have inner := steady (enter world) fun handle member => entering world ▸ known handle member
  exact inner.inside (.of_same (entering world)) (turns world) (.of_same (leaving world))
    (turnsLeaving world) (ends world) (halts world)

/-- An account in a scope does. -/
theorem inScope {account : Account α} (steady : account.Steady root gates held)
    (scope : Named Value) : (account.inScope scope).Steady root gates held :=
  steady.inside (fun _ => rfl) (fun _ => rfl) (fun _ => rfl) (fun _ => rfl)
    (fun _ value ended => ⟨value, ended⟩) fun _ _ ended => ended

/-- One with tabbing switched on does. -/
theorem tabbed {account : Account α} (steady : account.Steady root gates held) :
    account.tabbed.Steady root gates held :=
  steady.inside (fun _ => rfl) (fun _ => rfl) (fun _ => rfl) (fun _ => rfl)
    (fun _ value ended => ⟨value, ended⟩) fun _ _ ended => ended

/-- One under another policy does. -/
theorem underPolicy {account : Account α} (steady : account.Steady root gates held)
    (extension : String) : (account.underPolicy extension).Steady root gates held :=
  steady.inside (fun _ => rfl) (fun _ => rfl) (fun _ => rfl) (fun _ => rfl)
    (fun _ value ended => ⟨value, ended⟩) fun _ _ ended => ended

/-- One whose text is caught does. -/
theorem capture {account : Account Unit} (steady : account.Steady root gates held) :
    account.capture.Steady root gates held := by
  refine steady.inside (fun _ => rfl) (fun _ => rfl) (fun _ => rfl) (fun _ => rfl) ?_ ?_
  · intro world value ended
    exact ⟨_, by rw [Run.capture, ended, Except.map]⟩
  · intro world halt ended
    rw [Run.capture, ended, Except.map]

/-- So loops pass it on that an account does. -/
theorem telling : Telling fun account => account.Steady root gates held where
  pure := pure
  bind := bind
  inScope := fun scope steady => steady.inScope scope
  capture := capture
  write := fun text => silent (.write text)
  record := fun _ => silent (.hosted _)
  enclosing := silent (.lookUp "forloop")
  children := by
    intro node
    unfold Value.children
    split
    · exact silent (.hosted _)
    · exact pure _

end Steady

end Account

/-- A fault of loading tells of no tags that led to it. -/
theorem Catalogue.chain_of_load {catalogue : Catalogue} {files : Files} {name : String}
    {line : Option Nat} {fault : Fault} (failed : catalogue.load files name line = .error fault) :
    fault.chain = [] := by
  obtain ⟨-, ⟨cause, -, rfl⟩ | ⟨source, flaw, -, -, rfl⟩⟩ := Catalogue.load_error_cases failed
  · rfl
  · rfl

namespace Station

open Account

variable {root : Handle} {gates : List Gate} {world : World} {station : Station}

/-- Loading the template that a tag asks for proceeds. -/
theorem proceeds_loadTold (sites : station.sites = gates.map Gate.site) {span : Span}
    (placed : (station.gate span).Placed) (name : String) :
    (station.loadTold span name).Proceeds root gates world := by
  have run : (station.loadTold span name).run = station.load span name := rfl
  rw [Proceeds, run, load_apply]
  simp only [loadTold]
  cases found : world.catalogue.load world.host.files name (some (station.template.line span)) with
  | ok loaded =>
    have kept : world.Holds { world with
        catalogue := loaded.catalogue
        host := { world.host with records := loaded.record :: world.host.records } } :=
      ⟨Catalogue.keeps_load found, Catalogue.depthLimit_load found⟩
    exact ⟨[], gates, none, rfl, .quietly kept rfl .still, rfl, rfl⟩
  | error fault =>
    have unknown := Catalogue.chain_of_load found
    -- Only a template that there is not is a fault of the tag itself.
    by_cases missing : fault.cause.kind = .resolution
    · simp only [missing, if_true]
      refine ⟨[], gates, none, rfl, .still, fun _ => ⟨?_, ?_⟩⟩
      · rw [station.chain_locate span unknown, sites]
      · simp [missing]
    · simp only [missing, if_false]
      refine ⟨[], gates, some (station.gate span), rfl, .still, placed, ?_, ?_⟩
      · rw [Fault.through, if_pos unknown, sites, List.map_append]
        rfl
      · have other := Catalogue.kind_of_load found
        rw [Fault.cause_through]
        cases kind : fault.cause.kind with
        | syntactic => exact Or.inl rfl
        | io => exact Or.inr rfl
        | resolution => exact absurd kind missing
        | rendering => exact absurd kind other

/-- Going through a tag is modest. -/
theorem modest_enter (span : Span) : Run.Modest station.sites (station.enter span) := by
  refine ⟨fun world => ?_, fun world => ?_, fun world halt failed => ?_⟩
  · rw [enter_apply]
  · rw [enter_apply]
  · rw [enter_apply] at failed
    dsimp only at failed
    split at failed
    · cases failed
    · cases failed
      exact fun _ => ⟨station.chain_locate span rfl, by simp [Cause.kind]⟩

/-- The templates that are known where a station stands. -/
def handles (station : Station) : List Handle := station.handle :: station.derived

/-- A tag that asks for a template proceeds if what it leads to does. -/
theorem steady_visit {held : List Handle} {body : Handle → Station → Account Unit}
    (sites : station.sites = gates.map Gate.site) {span : Span}
    (placed : (station.gate span).Placed) (name : String)
    (onward : ∀ (world : World) (target : Handle), gates.length < world.catalogue.depthLimit →
      (∃ name, world.catalogue.shelved? name = some target) →
      (∀ handle ∈ held, world.catalogue.Knows root handle) →
      (body target { station with sites := station.sites ++ [station.site span] }).Proceeds
        root gates world) :
    (do
      let handle ← station.loadTold span name
      releasing handle do
        let inner ← silent (station.enter span)
        body handle inner).Steady root gates held := by
  intro world known
  refine (proceeds_loadTold sites placed name).bind fun target after done holds => ?_
  have loaded : station.load span name world = (.ok target, after) := done
  have there : ∃ name, after.catalogue.shelved? name = some target := by
    rw [load_apply] at loaded
    split at loaded
    · rename_i found
      cases loaded
      exact ⟨_, (Catalogue.shelved?_load found _).trans (if_pos rfl)⟩
    · cases loaded
  have knownAfter : ∀ handle ∈ held, after.catalogue.Knows root handle :=
    fun handle member => holds.knows (known handle member)
  refine Proceeds.releasing ?_
  refine (Proceeds.silent (sites ▸ modest_enter span)).bind fun inner entered done _ => ?_
  have arrived : station.enter span after = (.ok inner, entered) := done
  rw [enter_apply] at arrived
  split at arrived
  · rename_i shallow
    cases arrived
    rw [sites, List.length_map] at shallow
    exact onward after target shallow there knownAfter
  · cases arrived

end Station

/-- The goal belongs to a station: its statements are among those of the template, its
definitions are those of templates that are known there. -/
def Goal.Belongs (station : Station) : Goal → Prop
  | .whole => True
  | .reference _ => True
  | .block _ definitions => ∀ definition ∈ definitions, definition ∈ station.handles
  | .tree _ body => partsAll body ⊆ station.template.parts

/-- All goals proceed that belong to a station, where the tags are underway that led
there. -/
def Narration.Steady (root : Handle) (narrate : Narration) : Prop :=
  ∀ gates station goal, station.sites = gates.map Gate.site → goal.Belongs station →
    (narrate station goal).Steady root gates station.handles

section Statements

open Account

variable {root : Handle} {narrate : Narration} (narrates : narrate.Steady root)
  {gates : List Gate} {station : Station} (sites : station.sites = gates.map Gate.site)
include narrates sites

/-- What a tag leads to proceeds, whatever is changed for its time. -/
theorem Station.proceeds_through {world : World} {span : Span} {target : Handle}
    {derived : List Handle} (placed : (station.gate span).Placed)
    (shallow : gates.length < world.catalogue.depthLimit)
    (there : ∃ name, world.catalogue.shelved? name = some target)
    (own : world.catalogue.Knows root station.handle)
    (known : ∀ handle ∈ derived, world.catalogue.Knows root handle)
    {α : Type} (change : Account Unit → Account α)
    (changes : ∀ account, account.Steady root (gates ++ [station.gate span]) (target :: derived) →
      (change account).Steady root (gates ++ [station.gate span]) (target :: derived)) :
    (through (station.gate span) target (change (narrate
      (({ station with sites := station.sites ++ [station.site span] }).into target derived)
      .whole))).Proceeds root gates world := by
  obtain ⟨name, shelved⟩ := there
  have deeper : station.sites ++ [station.site span] =
      (gates ++ [station.gate span]).map Gate.site := by
    rw [sites, List.map_append]
    rfl
  have inner := narrates (gates ++ [station.gate span])
    (({ station with sites := station.sites ++ [station.site span] }).into target derived) .whole
    deeper trivial
  refine (changes _ inner world ?_).through shallow placed own shelved
  intro handle member
  rcases List.mem_cons.mp member with rfl | isDerived
  · exact Or.inr ⟨name, shelved⟩
  · exact known handle isDerived

/-- A tag that asks for a template to extend proceeds. -/
theorem Station.steady_inheritTold {target : Expr} {span : Span}
    (placed : (station.gate span).Placed) :
    (station.inheritTold narrate target span).Steady root gates station.handles := by
  refine (Steady.silent (.evaluateText target)).bind fun name => ?_
  refine steady_visit sites placed name fun world target shallow there known => ?_
  refine proceeds_through narrates sites placed shallow there (known _ List.mem_cons_self)
    (fun handle member => known handle ?_) id fun _ steady => steady
  rcases List.mem_append.mp member with derived | own
  · exact List.mem_cons_of_mem _ derived
  · exact List.mem_singleton.mp own ▸ List.mem_cons_self

/-- One that asks for a template in its place does. -/
theorem Station.steady_insertTold {target : Expr} {bindings : List Binding} {span : Span}
    (placed : (station.gate span).Placed) :
    (station.insertTold narrate target bindings span).Steady root gates station.handles := by
  refine (Steady.silent (.evaluateText target)).bind fun name => ?_
  refine (Steady.silent (.scopeOf bindings)).bind fun scope => ?_
  refine steady_visit sites placed name fun world target shallow there known => ?_
  have none : ∀ handle ∈ ([] : List Handle), world.catalogue.Knows root handle :=
    List.forall_mem_nil _
  exact proceeds_through narrates sites placed shallow there (known _ List.mem_cons_self) none
    (Account.inScope scope) fun _ steady => steady.inScope scope

/-- One that asks for a file does. -/
theorem Station.steady_createTold {target template : Expr} {span : Span}
    (placed : (station.gate span).Placed) :
    (station.createTold narrate target template span).Steady root gates station.handles := by
  have directory : Run.Modest (gates.map Gate.site) Run.directory :=
    .of_ok (fun _ => rfl) (fun _ => rfl) fun _ => ⟨_, rfl⟩
  refine (Steady.silent (.evaluateText target)).bind fun target => ?_
  refine (Steady.silent (.evaluateText template)).bind fun name => ?_
  refine (Steady.silent directory).bind fun found => ?_
  cases found with
  | none =>
    have other : (Cause.noOutputDirectory target).kind ≠ .syntactic := by simp [Cause.kind]
    exact Steady.silent (sites ▸ .fail station span other)
  | some directory =>
    refine steady_visit sites placed name fun world target shallow there known => ?_
    refine Proceeds.bind ?_ fun text after _ _ => .silent (sites ▸ .writeFile station span _ text)
    have none : ∀ handle ∈ ([] : List Handle), world.catalogue.Knows root handle :=
      List.forall_mem_nil _
    exact proceeds_through narrates sites placed shallow there (known _ List.mem_cons_self) none
      (fun account => Account.underPolicy _ account.capture)
      fun _ steady => steady.capture.underPolicy _

omit narrates in
/-- A statement that is not a cycle tag proceeds if what it does proceeds. -/
theorem Station.steady_beginning {held : List Handle} {statement : Stmt} {account : Account Unit}
    (own : station.handle ∈ held) (isPart : statement ∈ station.template.parts)
    (uncounted : ∀ turns, statement.turned station turns = turns)
    (steady : account.Steady root gates held) :
    (beginning station statement account).Steady root gates held := by
  intro world known
  obtain ⟨told, reached, refused, same, course, ending⟩ := steady world known
  have begins : Event.Happens root gates world (.began station statement world) gates world :=
    .begin sites (known _ own) isPart rfl (uncounted _).symm
  refine ⟨.began station statement world :: told, reached, refused, ?_,
    .eventfully begins course, ending⟩
  simp [beginning, same]

omit narrates in
/-- A cycle tag proceeds, and counts its execution. -/
theorem Station.steady_cycle {held : List Handle} {number : Nat} {first : Expr}
    {others : List Expr} {next : Nat → Account Unit} (own : station.handle ∈ held)
    (isPart : .cycle number first others ∈ station.template.parts)
    (steady : ∀ turn, (next turn).Steady root gates held) :
    (beginning station (.cycle number first others)
      (silent (Run.turn ⟨station.handle.serial, number⟩) >>= next)).Steady root gates held := by
  intro world known
  let tag : CycleTag := ⟨station.handle.serial, number⟩
  obtain ⟨told, reached, refused, same, course, ending⟩ := steady (world.turns.count tag)
    { world with turns := world.turns.advance tag } known
  have begins : Event.Happens root gates world (.began station (.cycle number first others) world)
      gates { world with turns := world.turns.advance tag } :=
    .begin sites (known _ own) isPart rfl rfl
  refine ⟨.began station (.cycle number first others) world :: told, reached, refused, ?_,
    .eventfully begins course, ending⟩
  exact congrArg (Event.began station (.cycle number first others) world :: ·) same

end Statements

/-- The parts of a template and the goals that belong to its station, where some tags are
underway that led there and the templates there are among some that are known. -/
def Admission.along (gates : List Gate) (held : List Handle) : Admission where
  statements station statements := station.sites = gates.map Gate.site ∧
    station.handles ⊆ held ∧ partsAll statements ⊆ station.template.parts
  goals station goal := station.sites = gates.map Gate.site ∧
    station.handles ⊆ held ∧ goal.Belongs station
  parts admitted fewer := ⟨admitted.1, admitted.2.1, List.Subset.trans fewer admitted.2.2⟩
  block admitted := ⟨admitted.1, admitted.2.1, trivial⟩
  tree := .rfl
  whole admitted := ⟨admitted.1, admitted.2.1, Template.parts_executed _⟩
  reference admitted := by
    refine ⟨admitted.1, admitted.2.1, fun definition member => ?_⟩
    rcases Station.mem_definitions member with derived | rfl
    · exact List.mem_cons_of_mem _ derived
    · exact List.mem_cons_self
  definition admitted defined := by
    obtain ⟨sites, known, belongs⟩ := admitted
    refine ⟨sites, List.cons_subset.mpr ⟨known (belongs _ List.mem_cons_self), ?_⟩,
      Template.parts_block defined⟩
    exact List.Subset.trans (List.subset_cons_self _ _) known
  others admitted :=
    ⟨admitted.1, admitted.2.1, fun _ later => admitted.2.2 _ (List.mem_cons_of_mem _ later)⟩

/-- So all statements and goals convey it that an account proceeds. -/
theorem Narration.Steady.conveys {root : Handle} {narrate : Narration}
    (narrates : narrate.Steady root) (gates : List Gate) (held : List Handle) :
    narrate.Conveys (fun account => account.Steady root gates held) (.along gates held) where
  toTelling := Account.Steady.telling
  evaluate := fun expression => .silent (.evaluate expression)
  evaluateText := fun expression => .silent (.evaluateText expression)
  scopeOf := fun bindings => .silent (.scopeOf bindings)
  emit := fun station value => .silent (.emit station value)
  shorten := fun text => .silent
    (.bind (.of_ok (fun _ => rfl) (fun _ => rfl) fun _ => ⟨_, rfl⟩) fun shorter => .write shorter)
  assign := fun _ _ => .silent (.of_ok (fun _ => rfl) (fun _ => rfl) fun _ => ⟨_, rfl⟩)
  goal := fun admitted => (narrates gates _ _ admitted.1 admitted.2.2).weaken admitted.2.1
  begins := by
    intro station statement account admitted single isAccount steady
    obtain ⟨sites, known, among⟩ := admitted
    have uncounted : ∀ turns, statement.turned station turns = turns := by
      cases statement with
      | cycle => cases single
      | _ => exact fun _ => rfl
    rw [isAccount]
    exact Station.steady_beginning sites (known List.mem_cons_self) (among List.mem_cons_self)
      uncounted steady
  inherit := by
    intro station target span admitted
    obtain ⟨sites, known, among⟩ := admitted
    have isPart := among List.mem_cons_self
    exact Station.steady_beginning sites (known List.mem_cons_self) isPart (fun _ => rfl)
      ((Station.steady_inheritTold narrates sites ⟨_, isPart, rfl⟩).weaken known)
  insert := by
    intro station target bindings span admitted
    obtain ⟨sites, known, among⟩ := admitted
    have isPart := among List.mem_cons_self
    exact Station.steady_beginning sites (known List.mem_cons_self) isPart (fun _ => rfl)
      ((Station.steady_insertTold narrates sites ⟨_, isPart, rfl⟩).weaken known)
  create := by
    intro station target template span admitted
    obtain ⟨sites, known, among⟩ := admitted
    have isPart := among List.mem_cons_self
    exact Station.steady_beginning sites (known List.mem_cons_self) isPart (fun _ => rfl)
      ((Station.steady_createTold narrates sites ⟨_, isPart, rfl⟩).weaken known)
  cycle := by
    intro station number first others admitted
    obtain ⟨sites, known, among⟩ := admitted
    refine Station.steady_cycle sites (known List.mem_cons_self) (among List.mem_cons_self)
      fun turn => ?_
    exact .bind (.silent (.evaluate _)) fun value => .silent (.emit station value)
  message := by
    intro station body admitted inside
    obtain ⟨sites, known, among⟩ := admitted
    have muted := inside { station with escaping := false }
      ⟨sites, known, List.Subset.trans (partsAll_subset_singleton (List.Subset.refl _)) among⟩
    exact Station.steady_beginning sites (known List.mem_cons_self) (among List.mem_cons_self)
      (fun _ => rfl) (muted.capture.bind fun text => .silent (.hosted _))
  tabbing := by
    intro station body admitted inside
    obtain ⟨sites, known, among⟩ := admitted
    have within := List.Subset.trans (partsAll_subset_singleton (List.Subset.refl _)) among
    refine Station.steady_beginning sites (known List.mem_cons_self) (among List.mem_cons_self)
      (fun _ => rfl) ?_
    simp only [Station.withinTold]
    split
    · exact inside station ⟨sites, known, within⟩
    · exact (inside { station with tabbing := true } ⟨sites, known, within⟩).tabbed

/-- All goals proceed, however deep they lie inside one another. -/
theorem steady_expandTold (root : Handle) (depth : Nat) :
    Narration.Steady root (expandTold depth) := by
  induction depth with
  | zero =>
    intro gates station goal _ _
    refine Account.Steady.silent ⟨fun _ => rfl, fun _ => rfl, ?_⟩
    rintro _ _ ⟨⟩
    trivial
  | succ depth inductionHypothesis =>
    exact fun gates station goal sites belongs =>
      (inductionHypothesis.conveys gates station.handles).pursue
        ⟨sites, List.Subset.refl _, belongs⟩

namespace Workshop

/-- The chronicle of a rendering is a course of events, from where no tag is underway and no
cycle tag was executed to where the rendering ends. -/
theorem chronicle_course (shop : Workshop) (limit : Nat) (handle : Handle) (sink : Sink) :
    ∃ told reached refused,
      shop.chronicle limit handle sink = told ++ (refused.map Event.barred).toList ∧
      Course handle [] { shop with turns := [], sink := sink } told reached
        (shop.renderInto limit handle sink).2 ∧
      Outcome [] reached refused (shop.renderInto limit handle sink).1 := by
  have proceeds := steady_expandTold handle limit [] (.start handle) .whole rfl trivial
    { shop with turns := [], sink := sink }
    fun known member => Or.inl (List.mem_singleton.mp member)
  rwa [Account.Proceeds, run_expandTold] at proceeds

end Workshop

end Stencil
