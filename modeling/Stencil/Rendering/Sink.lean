import Stencil.Fault.Basic

/-!
# Sinks

Where the output of a rendering goes: into a buffer, or to a device that takes a
certain number of bytes and then refuses. A device may take less of what it is offered
than it has room for; the rest is offered again. What it said when it refused is kept
with it, since whoever writes learns only that not everything was taken.
-/

namespace Stencil

/-- A device with the bytes it took, its room for more, how many bytes it takes at a
time, after those it took and of those it is offered, and what it says once it is
full. -/
structure Device where
  taken : ByteArray
  room : Nat
  portion : ByteArray → ByteArray → Nat
  refusal : FileError

namespace Device

/-- An empty device that takes as much at a time as it has room for. -/
def greedy (room : Nat) (refusal : FileError) : Device :=
  ⟨.empty, room, fun _ offered => offered.size, refusal⟩

/-- How many of the bytes it is offered a device takes: at least one, unless it is
full. -/
def share (device : Device) (bytes : ByteArray) : Nat :=
  min (min bytes.size device.room) (max 1 (device.portion device.taken bytes))

/-- The device after it took that many of the bytes. -/
def take (device : Device) (bytes : ByteArray) (count : Nat) : Device :=
  { device with taken := device.taken ++ bytes.extract 0 count, room := device.room - count }

/-- A device that is not full takes a share of the bytes. -/
theorem share_pos {device : Device} {bytes : ByteArray} (some : bytes.size ≠ 0)
    (notFull : device.room ≠ 0) : 0 < device.share bytes := by
  unfold share
  omega

/-- Offers bytes until the device took all of them, or refuses to take more. -/
def writeAll (device : Device) (bytes : ByteArray) : Option FileError × Device :=
  if bytes.size = 0 then (none, device)
  else if device.room = 0 then (some device.refusal, device)
  else
    let share := device.share bytes
    (device.take bytes share).writeAll (bytes.extract share bytes.size)
termination_by bytes.size
decreasing_by
  have taken := share_pos ‹bytes.size ≠ 0› ‹device.room ≠ 0›
  rw [ByteArray.size_extract]
  omega

/-- Nothing is taken by taking no bytes. -/
@[simp] theorem take_zero (device : Device) (bytes : ByteArray) : device.take bytes 0 = device := by
  simp [take]

/-- What is taken in two steps may be taken in one. -/
theorem take_take (device : Device) (bytes : ByteArray) {first second : Nat}
    (inside : first + second ≤ bytes.size) :
    (device.take bytes first).take (bytes.extract first bytes.size) second =
      device.take bytes (first + second) := by
  have joined : bytes.extract 0 first ++ bytes.extract first (first + second) =
      bytes.extract 0 (first + second) := by
    rw [ByteArray.extract_append_extract]
    simp
  simp only [take, ByteArray.extract_extract, Nat.add_zero, Nat.min_eq_left inside,
    ByteArray.append_assoc, joined, Nat.sub_sub]

/-- A device takes all bytes that it has room for, whatever its portions are. -/
theorem writeAll_eq (device : Device) (bytes : ByteArray) :
    device.writeAll bytes =
      if bytes.size ≤ device.room then (none, device.take bytes bytes.size)
      else (some device.refusal, device.take bytes device.room) := by
  fun_induction writeAll device bytes with
  | case1 device bytes nothing => simp [nothing]
  | case2 device bytes something full => simp [something, full]
  | case3 device bytes something notFull share inductionHypothesis =>
    have within : share ≤ min bytes.size device.room := Nat.min_le_left _ _
    have rest : (bytes.extract share bytes.size).size = bytes.size - share := by
      simp [ByteArray.size_extract]
    have room : (device.take bytes share).room = device.room - share := rfl
    rw [inductionHypothesis, rest, room]
    by_cases fits : bytes.size ≤ device.room
    · have whole : share + (bytes.size - share) = bytes.size := by omega
      rw [if_pos fits, if_pos (by omega), take_take device bytes (by omega), whole]
    · have full : share + (device.room - share) = device.room := by omega
      rw [if_neg fits, if_neg (by omega), take_take device bytes (by omega), full]
      rfl

end Device

/-- A buffer with the text written so far, or a device with what it said if it
refused. -/
inductive Sink where
  | buffer (text : String)
  | device (target : Device) (said : Option FileError)

namespace Sink

/-- Writes a text, and tells whether the sink took all of it. -/
def write (sink : Sink) (text : String) : Bool × Sink :=
  match sink with
  | buffer written => (true, buffer (written ++ text))
  | device target said =>
    let done := target.writeAll text.toUTF8
    (done.1.isNone, device done.2 (done.1 <|> said))

/-- The text in a buffer. -/
def text : Sink → String
  | buffer written => written
  | device .. => ""

/-- The bytes that a device took. -/
def bytes : Sink → ByteArray
  | buffer _ => .empty
  | device target _ => target.taken

/-- What a device said when it refused. -/
def said? : Sink → Option FileError
  | buffer _ => none
  | device _ said => said

/-- A buffer takes every text, after those before it. -/
@[simp] theorem write_buffer (written text : String) :
    (buffer written).write text = (true, buffer (written ++ text)) := rfl

end Sink

end Stencil
