import Stencil.Proofs.Logic.Statements
import Stencil.Proofs.Discipline
import Stencil.Rendering

/-!
# Rendering to a device is rendering to a text, cut off

What an action writes does not depend on the sink that it is written to. A sink that
takes all of it is left as it would be if the text were written at once; one that does
not ends the action there and then, whatever it was inside of. So a rendering to a
device follows the rendering to a buffer up to the byte that the device refused.
-/

namespace Stencil

/-- The world with another sink. -/
def World.withSink (world : World) (sink : Sink) : World := { world with sink := sink }

/-- The sink is the one that was put there. -/
@[simp] theorem World.sink_withSink (world : World) (sink : Sink) :
    (world.withSink sink).sink = sink := rfl

namespace Device

/-- Of two byte strings in a row the first is taken first. -/
theorem take_append (device : Device) (first second : ByteArray) (count : Nat) :
    device.take (first ++ second) (first.size + count) =
      (device.take first first.size).take second count := by
  simp only [take, ByteArray.extract_append, Nat.zero_sub, Nat.add_sub_cancel_left,
    ByteArray.append_assoc, Nat.sub_sub]
  rw [show first.extract 0 (first.size + count) = first.extract 0 first.size by
    ext1; simp]

/-- What is taken of the first byte string does not depend on the second. -/
theorem take_append_of_le (device : Device) {first second : ByteArray} {count : Nat}
    (inside : count ≤ first.size) :
    device.take (first ++ second) count = device.take first count := by
  have nothing : second.extract 0 (count - first.size) = .empty := by
    rw [Nat.sub_eq_zero_of_le inside, ByteArray.extract_same]
  simp only [take, ByteArray.extract_append, Nat.zero_sub, nothing, ByteArray.append_empty]

/-- Two byte strings may be written as one: the second is offered if the first was
taken. -/
theorem writeAll_append (device : Device) (first second : ByteArray) :
    device.writeAll (first ++ second) =
      match device.writeAll first with
      | (none, after) => after.writeAll second
      | (some refusal, after) => (some refusal, after) := by
  simp only [writeAll_eq, ByteArray.size_append]
  by_cases fits : first.size ≤ device.room
  · have room : (device.take first first.size).room = device.room - first.size := rfl
    simp only [if_pos fits, room]
    by_cases bothFit : first.size + second.size ≤ device.room
    · rw [if_pos bothFit, if_pos (by omega), take_append]
    · have full : first.size + (device.room - first.size) = device.room := by omega
      rw [if_neg bothFit, if_neg (by omega), ← take_append, full]
      rfl
  · have inside : device.room ≤ first.size := by omega
    rw [if_neg (by omega), if_neg fits, take_append_of_le device inside]

end Device

namespace Sink

/-- A device takes a text that it has room for. -/
theorem write_device_of_le {target : Device} {text : String} (said : Option FileError)
    (fits : text.toUTF8.size ≤ target.room) :
    (device target said).write text =
      (true, device (target.take text.toUTF8 text.toUTF8.size) said) := by
  simp only [write, Device.writeAll_eq, if_pos fits]
  rfl

/-- Of a text that it has no room for, a device takes as much as it can. -/
theorem write_device_of_lt {target : Device} {text : String} (said : Option FileError)
    (exceeds : target.room < text.toUTF8.size) :
    (device target said).write text =
      (false, device (target.take text.toUTF8 target.room) (some target.refusal)) := by
  simp only [write, Device.writeAll_eq, if_neg (Nat.not_le_of_lt exceeds)]
  rfl

/-- Every sink takes nothing. -/
@[simp] theorem write_empty (sink : Sink) : sink.write "" = (true, sink) := by
  cases sink with
  | buffer written => simp
  | device target said => simp [write, Device.writeAll_eq]

/-- Two texts may be written as one: the second is offered if the first was taken. -/
theorem write_append (sink : Sink) (first second : String) :
    sink.write (first ++ second) =
      if (sink.write first).1 then (sink.write first).2.write second else sink.write first := by
  cases sink with
  | buffer written => simp [String.append_assoc]
  | device target said =>
    have bytes : (first ++ second).toUTF8 = first.toUTF8 ++ second.toUTF8 :=
      String.toByteArray_append
    rcases offered : target.writeAll first.toUTF8 with ⟨refused, after⟩
    simp only [write, bytes, Device.writeAll_append, offered]
    cases refused <;> rfl

end Sink

/-- The reason to halt is not that a text was not taken. -/
def Halt.Explained : Halt → Prop
  | .fault struck => struck.cause ≠ .unwritten
  | .exhausted => True

namespace Run

variable {α β : Type} {isGood : α → Prop}

/-- The result is a good value, or a halt that is explained. -/
def Explains (isGood : α → Prop) : Except Halt α → Prop
  | .ok value => isGood value
  | .error halt => halt.Explained

/-- From a world with any sink the action writes the text, and comes to the result in
the world if the sink takes all of it. If it does not, the action halts, and the sink is
as it was left by the text. -/
structure Emits (action : Run α) (world : World) (text : String) (result : Except Halt α)
    (after : World) : Prop where
  whole : ∀ sink, (sink.write text).1 = true →
    action (world.withSink sink) = (result, after.withSink (sink.write text).2)
  cut : ∀ sink, (sink.write text).1 = false →
    (action (world.withSink sink)).1 = .error (.fault (.ofCause .unwritten)) ∧
      (action (world.withSink sink)).2.sink = (sink.write text).2

/-- The action writes the same to every sink. -/
def Streams (isGood : α → Prop) (action : Run α) : Prop :=
  ∀ world, ∃ text result after, action.Emits world text result after ∧ Explains isGood result

/-- The action does not touch the sink, and what it comes to does not depend on it. -/
structure Silent (isGood : α → Prop) (action : Run α) : Prop where
  apply : ∀ world sink,
    action (world.withSink sink) = ((action world).1, (action world).2.withSink sink)
  explains : ∀ world, Explains isGood (action world).1

namespace Silent

/-- An action that does not touch the sink writes nothing. -/
theorem streams {action : Run α} (silent : Silent isGood action) : Streams isGood action := by
  intro world
  refine ⟨"", (action world).1, (action world).2, ⟨?_, ?_⟩, silent.explains world⟩
  · intro sink _
    rw [silent.apply, Sink.write_empty]
  · intro sink refused
    simp at refused

/-- What always comes to a good value has no halt to explain. -/
theorem of_good {action : Run α} (apply : ∀ world sink,
      action (world.withSink sink) = ((action world).1, (action world).2.withSink sink))
    (good : ∀ world, ∃ value, (action world).1 = .ok value ∧ isGood value) :
    Silent isGood action := by
  refine ⟨apply, fun world => ?_⟩
  obtain ⟨value, same, isGood⟩ := good world
  rw [same]
  exact isGood

/-- Halting with another fault is silent. -/
theorem fail {fault : Fault} (other : fault.cause ≠ .unwritten) :
    Silent isGood (Run.fail fault : Run α) :=
  ⟨fun _ _ => rfl, fun _ => other⟩

/-- Under another policy an action is as silent as under this one. -/
theorem underPolicy {action : Run α} (silent : Silent isGood action) (extension : String) :
    Silent isGood (Run.underPolicy extension action) := by
  refine ⟨fun world sink => ?_, fun world => silent.explains _⟩
  have same := silent.apply { world with context := world.context.select extension } sink
  simp only [World.withSink] at same
  simp only [Run.underPolicy, Run.between, World.withSink, same]

end Silent

namespace Streams

/-- A value by itself writes nothing. -/
theorem pure (value : α) (good : isGood value) : Streams isGood (Pure.pure value : Run α) :=
  Silent.streams (.of_good (fun _ _ => rfl) fun _ => ⟨value, rfl, good⟩)

/-- A text is written. -/
theorem write (text : String) : Streams (fun _ => True) (Run.write text) := by
  intro world
  refine ⟨text, .ok (), world, ⟨?_, ?_⟩, trivial⟩
  · intro sink taken
    simp only [Run.write, World.sink_withSink, taken, if_true]
    rfl
  · intro sink refused
    simp [Run.write, refused]

/-- Where the text of the first action is refused, a sequence goes no further. -/
theorem cut_bind {action : Run α} {next : α → Run β} {world after : World} {text : String}
    {result : Except Halt α} (emits : action.Emits world text result after) {sink : Sink}
    (refused : (sink.write text).1 = false) :
    ((action >>= next) (world.withSink sink)).1 = .error (.fault (.ofCause .unwritten)) ∧
      ((action >>= next) (world.withSink sink)).2.sink = (sink.write text).2 := by
  obtain ⟨halted, left⟩ := emits.cut sink refused
  rw [bind_apply]
  rcases stopped : action (world.withSink sink) with ⟨outcome, broken⟩
  rw [stopped] at halted left
  subst halted
  exact ⟨rfl, left⟩

/-- A sequence writes what its parts write. -/
theorem bind {middle : α → Prop} {isGood : β → Prop} {action : Run α} {next : α → Run β}
    (streams : Streams middle action)
    (onward : ∀ value, middle value → Streams isGood (next value)) :
    Streams isGood (action >>= next) := by
  intro world
  obtain ⟨text, result, after, emits, explains⟩ := streams world
  cases result with
  | error halt =>
    refine ⟨text, .error halt, after, ⟨?_, fun _ refused => cut_bind emits refused⟩, explains⟩
    intro sink taken
    rw [bind_apply, emits.whole sink taken]
  | ok value =>
    obtain ⟨rest, result, later, continues, explained⟩ := onward value explains after
    have goesOn : ∀ sink, (sink.write text).1 = true →
        (action >>= next) (world.withSink sink) =
          next value (after.withSink (sink.write text).2) := by
      intro sink taken
      rw [bind_apply, emits.whole sink taken]
    -- A sink refuses the first text, or takes it and refuses the second, or takes both.
    refine ⟨text ++ rest, result, later, ⟨?_, ?_⟩, explained⟩
    · intro sink taken
      rw [Sink.write_append] at taken ⊢
      cases first : (sink.write text).1 with
      | false => simp [first] at taken
      | true =>
        simp only [first, if_true] at taken ⊢
        rw [goesOn sink first, continues.whole _ taken]
    · intro sink refused
      rw [Sink.write_append] at refused ⊢
      cases first : (sink.write text).1 with
      | false => simpa [first] using cut_bind emits first
      | true =>
        simp only [first, if_true] at refused ⊢
        rw [goesOn sink first]
        exact continues.cut _ refused

/-- A change for a time that does not depend on the sink, and leaves it alone, does not
change what is written. -/
theorem between {action : Run α} {before after : World → World} (streams : Streams isGood action)
    (entering : ∀ world sink, before (world.withSink sink) = (before world).withSink sink)
    (leaving : ∀ world sink, after (world.withSink sink) = (after world).withSink sink) :
    Streams isGood (Run.between before after action) := by
  intro world
  obtain ⟨text, result, later, emits, explains⟩ := streams (before world)
  have untouched : ∀ world, (after world).sink = world.sink := by
    intro world
    have same : after world = (after world).withSink world.sink := leaving world world.sink
    rw [same, World.sink_withSink]
  refine ⟨text, result, after later, ⟨?_, ?_⟩, explains⟩
  · intro sink taken
    simp only [Run.between, entering, emits.whole sink taken, leaving]
  · intro sink refused
    obtain ⟨halted, left⟩ := emits.cut sink refused
    simp only [Run.between, entering]
    exact ⟨halted, (untouched _).trans left⟩

/-- An action whose text is caught writes nothing. -/
theorem capture {action : Run Unit} (streams : Streams (fun _ => True) action) :
    Silent (fun _ => True) (Run.capture action) := by
  refine ⟨fun _ _ => rfl, fun world => ?_⟩
  obtain ⟨text, result, after, emits, explains⟩ := streams world
  have caught : action { world with sink := .buffer "" } = (result, _) :=
    emits.whole (.buffer "") rfl
  simp only [Run.capture, caught]
  cases result with
  | ok value => trivial
  | error halt => exact explains

end Streams

end Run

namespace Station

open Run

variable (station : Station) (span : Span)

/-- A value is written, escaped or as it is. -/
theorem streams_emit (value : Value) : Streams (fun _ => True) (station.emit value) := by
  rw [emit]
  split
  · exact Streams.write value.written
  · have escapes : Silent (fun _ => True) (Run.escape value.written) :=
      .of_good (fun _ _ => rfl) fun _ => ⟨_, rfl, trivial⟩
    exact escapes.streams.bind fun text _ => Streams.write text

/-- Asking for a template is silent. -/
theorem silent_load (name : String) : Silent (fun _ => True) (station.load span name) := by
  refine ⟨?_, ?_⟩
  · intro world sink
    rw [load_apply, load_apply]
    simp only [World.withSink]
    cases world.catalogue.load world.host.files name (some (station.template.line span)) <;> rfl
  · intro world
    rw [load_apply]
    cases found :
        world.catalogue.load world.host.files name (some (station.template.line span)) with
    | ok loaded => trivial
    | error fault =>
      have other : fault.cause ≠ .unwritten :=
        fun unwritten => Catalogue.kind_of_load found (by rw [unwritten]; rfl)
      simp only [Explains, Halt.Explained]
      split <;> simpa using other

/-- Going through a tag is silent. -/
theorem silent_enter : Silent (fun _ => True) (station.enter span) := by
  refine ⟨?_, ?_⟩
  · intro world sink
    rw [enter_apply, enter_apply]
    rfl
  · intro world
    rw [enter_apply]
    simp only
    split <;> simp [Explains, Halt.Explained]

/-- Writing a file is silent. -/
theorem silent_writeFile (path text : String) :
    Silent (fun _ => True) (station.writeFile span path text) := by
  refine ⟨?_, ?_⟩
  · intro world sink
    rw [writeFile, get_apply, get_apply]
    simp only [World.withSink]
    rcases world.host.files.create path text.toUTF8 with ⟨_ | _, files⟩ <;> rfl
  · intro world
    rw [writeFile, get_apply]
    rcases made : world.host.files.create path text.toUTF8 with ⟨cause | _, files⟩
    · have other : cause ≠ .unwritten := by
        rintro rfl
        exact absurd (Files.kind_of_create (congrArg Prod.fst made)) (by decide)
      exact fun unwritten => other (by simpa using unwritten)
    · trivial

end Station

/-- The logic of actions that write the same to every sink. Nothing is expected of
statements, values and goals. -/
def streaming : Logic Unit where
  keeps _ isGood action _ := Run.Streams isGood action
  admits _ _ _ := True
  asks _ _ _ := True
  good _ _ := True
  bindable _ _ := True
  legible _ _ := True
  opens _ _ := True
  catches _ _ := True
  files _ _ := True
  arrives _ _ _ _ _ := True

/-- It expects nothing indeed. -/
theorem streaming_indifferent : streaming.Indifferent := by
  refine ⟨⟨?_, ?_, ?_⟩, ?_, ?_⟩ <;> intros <;> trivial

open Run in
/-- All actions of a rendering write the same to every sink. -/
theorem streaming_sound : streaming.Sound where
  pure := Streams.pure
  bind streams onward := streams.bind onward
  toExpectant := streaming_indifferent.expectant
  toScrupulous := streaming_indifferent.scrupulous
  evaluate _ _ := Silent.streams (.of_good (fun _ _ => rfl) fun _ => ⟨_, rfl, trivial⟩)
  pattern _ := Silent.streams (.of_good (fun _ _ => rfl) fun _ => ⟨_, rfl, fun _ _ => trivial⟩)
  record _ _ := Silent.streams (.of_good (fun _ _ => rfl) fun _ => ⟨_, rfl, trivial⟩)
  enclosing := Silent.streams (.of_good (fun _ _ => rfl) fun _ => ⟨_, rfl, fun _ _ => trivial⟩)
  emit _ _ := Station.streams_emit _ _
  write _ := Streams.write _
  removeSpace _ := Silent.streams (.of_good (fun _ _ => rfl) fun _ => ⟨_, rfl, trivial⟩)
  assign _ _ := Silent.streams (.of_good (fun _ _ => rfl) fun _ => ⟨_, rfl, trivial⟩)
  turn _ := Silent.streams (.of_good (fun _ _ => rfl) fun _ => ⟨_, rfl, trivial⟩)
  note _ := Silent.streams (.of_good (fun _ _ => rfl) fun _ => ⟨_, rfl, trivial⟩)
  directory := Silent.streams (.of_good (fun _ _ => rfl) fun _ => ⟨_, rfl, trivial⟩)
  noDirectory _ _ _ := (Silent.fail (by simp)).streams
  writeFile span path text _ := (Station.silent_writeFile _ span path text).streams
  scope _ _ inside := (inside () trivial).between (fun _ _ => rfl) (fun _ _ => rfl)
  capture inside := (inside () trivial).capture.streams
  mute _ inside := (inside () fun _ _ => trivial).capture.streams
  tabbed _ _ inside := (inside () fun _ _ => trivial).between (fun _ _ => rfl) (fun _ _ => rfl)
  file extension inside := ((inside () trivial).capture.underPolicy extension).streams
  visit span name _ inside := by
    refine (Station.silent_load _ span name).streams.bind fun handle _ => ?_
    refine Streams.between ?_ (fun _ _ => rfl) (fun _ _ => rfl)
    exact (Station.silent_enter _ span).streams.bind fun entered _ =>
      inside () handle entered trivial

/-- So goals do, however deep they lie inside one another. -/
theorem streams_expand (depth : Nat) (station : Station) (goal : Goal) :
    Run.Streams (fun _ => True) (expand depth station goal) := by
  have children : ∀ {isGood : Value → Prop}, (∀ value, isGood value) → ∀ node : Value,
      Run.Streams isGood node.children := by
    intro isGood good node
    unfold Value.children
    split
    · exact Run.Silent.streams (.of_good (fun _ _ => rfl) fun _ => ⟨_, rfl, good _⟩)
    · exact Run.Streams.pure _ (good _)
  exact streaming_sound.follows_expand
    (fun _ => Run.Silent.streams ⟨fun _ _ => rfl, fun _ => trivial⟩)
    (fun _ _ goal _ => streaming_indifferent.provides goal children) depth () station goal trivial

namespace Workshop

/-- What a rendering writes, also if it halts. -/
def written (shop : Workshop) (handle : Handle) : String :=
  (shop.renderInto expansionLimit handle (.buffer "")).2.sink.text

/-- Whatever sink a rendering goes to, it writes the same, and the rendering to a text
says what it comes to. -/
theorem emits_renderInto (shop : Workshop) (handle : Handle) : ∃ result after,
    (expand expansionLimit (.start handle) .whole).Emits
      { shop with turns := [], sink := .buffer "" } (shop.written handle) result after ∧
    Run.Explains (fun _ => True) result ∧
    shop.render handle = (result.map fun _ => shop.written handle, after.toWorkshop) := by
  obtain ⟨text, result, after, emits, explains⟩ := streams_expand expansionLimit (.start handle)
    .whole { shop with turns := [], sink := .buffer "" }
  have buffered : shop.renderInto expansionLimit handle (.buffer "") =
      (result, after.withSink (.buffer text)) :=
    (emits.whole (.buffer "") rfl).trans (by rw [Sink.write_buffer, String.empty_append])
  have written : shop.written handle = text := by
    rw [Workshop.written, buffered]
    rfl
  rw [written]
  refine ⟨result, after, emits, explains, ?_⟩
  rw [render, buffered]
  rfl

/-- A device that has room for all that is written takes it, and the rendering ends like
one to a text. -/
theorem renderToDevice_of_le {shop : Workshop} {handle : Handle} {device : Device}
    (fits : (shop.written handle).toUTF8.size ≤ device.room) :
    shop.renderToDevice handle device =
      ((shop.render handle).1.map fun _ => (), device.taken ++ (shop.written handle).toUTF8,
        (shop.render handle).2) := by
  obtain ⟨result, after, emits, explains, rendered⟩ := shop.emits_renderInto handle
  have taken := Sink.write_device_of_le none fits
  have done := emits.whole (.device device none) (by rw [taken])
  rw [taken] at done
  have whole : shop.renderInto expansionLimit handle (.device device none) = (result, _) := done
  have bytes : device.taken ++ (shop.written handle).toUTF8.extract 0
      (shop.written handle).toUTF8.size = device.taken ++ (shop.written handle).toUTF8 := by
    rw [ByteArray.extract_zero_size]
  simp only [renderToDevice, whole, rendered]
  refine Prod.ext ?_ (Prod.ext bytes rfl)
  cases result <;> rfl

/-- A device that has not takes as much as it can, and the rendering ends with what it
said. -/
theorem renderToDevice_of_lt {shop : Workshop} {handle : Handle} {device : Device}
    (exceeds : device.room < (shop.written handle).toUTF8.size) :
    (shop.renderToDevice handle device).1 = .error (.fault (.ofCause (.device device.refusal))) ∧
      (shop.renderToDevice handle device).2.1 =
        device.taken ++ (shop.written handle).toUTF8.extract 0 device.room := by
  obtain ⟨result, after, emits, explains, rendered⟩ := shop.emits_renderInto handle
  have refused := Sink.write_device_of_lt none exceeds
  have cut := emits.cut (.device device none) (by rw [refused])
  rw [refused] at cut
  obtain ⟨halted, left⟩ := cut
  have halts : (shop.renderInto expansionLimit handle (.device device none)).1 = _ := halted
  have leaves : (shop.renderInto expansionLimit handle (.device device none)).2.sink = _ := left
  simp only [renderToDevice, halts, leaves]
  exact ⟨rfl, rfl⟩

/-- A rendering to a device is the rendering to a text, as far as the device has room for
it. If it has room for all that is written, the rendering ends with the same result and
leaves the same workshop behind; if not, it ends with what the device said. Either way
the device takes what it has room for, and that a text was not taken is never the
fault. -/
theorem renderToDevice_eq (shop : Workshop) (handle : Handle) (device : Device) :
    (∀ text, (shop.render handle).1 = .ok text → text = shop.written handle) ∧
      (shop.renderToDevice handle device).1 =
        (if (shop.written handle).toUTF8.size ≤ device.room then
          (shop.render handle).1.map fun _ => ()
        else .error (.fault (.ofCause (.device device.refusal)))) ∧
      (shop.renderToDevice handle device).2.1 = device.taken ++
        (shop.written handle).toUTF8.extract 0
          (min device.room (shop.written handle).toUTF8.size) ∧
      ((shop.written handle).toUTF8.size ≤ device.room →
        (shop.renderToDevice handle device).2.2 = (shop.render handle).2) ∧
      ∀ fault, (shop.renderToDevice handle device).1 = .error (.fault fault) →
        fault.cause ≠ .unwritten := by
  obtain ⟨result, after, emits, explains, rendered⟩ := shop.emits_renderInto handle
  have agrees : ∀ text, (shop.render handle).1 = .ok text → text = shop.written handle := by
    intro text same
    rw [rendered] at same
    cases result with
    | ok value => exact (Except.ok.inj same).symm
    | error halt => cases same
  refine ⟨agrees, ?_⟩
  by_cases fits : (shop.written handle).toUTF8.size ≤ device.room
  · rw [renderToDevice_of_le fits, if_pos fits, Nat.min_eq_right fits,
      ByteArray.extract_zero_size]
    refine ⟨rfl, rfl, fun _ => rfl, ?_⟩
    intro fault failed
    rw [rendered] at failed
    cases result with
    | ok value => cases failed
    | error halt =>
      cases failed
      exact explains
  · have exceeds : device.room < (shop.written handle).toUTF8.size := Nat.lt_of_not_le fits
    obtain ⟨refused, taken⟩ := renderToDevice_of_lt exceeds
    rw [refused, taken, if_neg fits, Nat.min_eq_left (Nat.le_of_lt exceeds)]
    refine ⟨rfl, rfl, fun impossible => absurd impossible fits, ?_⟩
    intro fault failed
    cases failed
    simp

end Workshop

end Stencil
