import Chip8.Text.Field

/-!
# Arguments

A command names one program and may choose the speed, where shifts read, the number of
frames, silence and the seed of the random numbers.  Options stand before or after the
program, a number follows its option or is attached to it, and `--` ends the options.  Each
option may be given once.  What does not read as a command is no command: there is nothing
to say about it but that.
-/

namespace Chip8

/-- A command that was understood. -/
structure Arguments where
  path : String
  cycles : Option UInt32 := none
  shiftInPlace : Bool := false
  /-- The most frames to play. -/
  frames : Option UInt64 := none
  mute : Bool := false
  seed : Option UInt64 := none
deriving DecidableEq, Inhabited

namespace Arguments

/-- The options that a number belongs to. -/
inductive Numbered where
  | cycles | frames | seed
deriving DecidableEq, Inhabited

/-- The options that stand alone. -/
inductive Switch where
  | shiftInPlace | mute
deriving DecidableEq, Inhabited

/-- What an argument is by its form. -/
inductive Form where
  | plain
  | switch (s : Switch)
  /-- An option with the text attached to it, if any. -/
  | numbered (o : Numbered) (attached : Option (List Char))
  /-- It looks like an option and is none. -/
  | unknown
deriving DecidableEq, Inhabited

def word64? (cs : List Char) : Option UInt64 :=
  (Text.unsigned? cs).bind fun n => if n < UInt64.size then some (UInt64.ofNat n) else none

/-- A number of 32 bits.  Zero may be written with a minus sign. -/
def word32? (cs : List Char) : Option UInt32 :=
  let n := match cs with
    | '-' :: ds => (Text.natural? ds).filter (· = 0)
    | _ => Text.unsigned? cs
  n.bind fun n => if n < UInt32.size then some (UInt32.ofNat n) else none

def longForm (cs : List Char) : Form :=
  let (name, value) := Text.splitAt '=' cs
  if name = "cycles".toList then .numbered .cycles value
  else if name = "frames".toList then .numbered .frames value
  else if name = "seed".toList then .numbered .seed value
  else if value.isSome then .unknown
  else if name = "mute".toList then .switch .mute
  else if name = "shift-in-place".toList then .switch .shiftInPlace
  else .unknown

/-- What one dash and a letter stand for; the number may be attached with or without an
equals sign. -/
def shortForm : List Char → Form
  | ['c'] => .numbered .cycles none
  | 'c' :: '=' :: value => .numbered .cycles (some value)
  | 'c' :: value => .numbered .cycles (some value)
  | _ => .unknown

/-- What an argument is by its form.  A dash alone is plain. -/
def form (arg : String) : Form :=
  match arg.toList with
  | '-' :: '-' :: cs => longForm cs
  | ['-'] => .plain
  | '-' :: cs => shortForm cs
  | _ => .plain

/-- What was understood so far. -/
structure Draft where
  path : Option String := none
  cycles : Option UInt32 := none
  shiftInPlace : Bool := false
  frames : Option UInt64 := none
  mute : Bool := false
  seed : Option UInt64 := none

namespace Draft

def addPath (d : Draft) (path : String) : Option Draft :=
  if d.path.isSome ∨ path.isEmpty then none else some { d with path := some path }

def addSwitch (d : Draft) : Switch → Option Draft
  | .mute => if d.mute then none else some { d with mute := true }
  | .shiftInPlace => if d.shiftInPlace then none else some { d with shiftInPlace := true }

def addNumber (d : Draft) (o : Numbered) (cs : List Char) : Option Draft :=
  match o with
  | .cycles =>
    if d.cycles.isSome then none else (word32? cs).map fun n => { d with cycles := some n }
  | .frames =>
    if d.frames.isSome then none else (word64? cs).map fun n => { d with frames := some n }
  | .seed =>
    if d.seed.isSome then none else (word64? cs).map fun n => { d with seed := some n }

def finish (d : Draft) : Option Arguments :=
  d.path.map fun path =>
    { path, cycles := d.cycles, shiftInPlace := d.shiftInPlace, frames := d.frames,
      mute := d.mute, seed := d.seed }

end Draft

def readPlain : List String → Draft → Option Draft
  | [], d => some d
  | arg :: rest, d => (d.addPath arg).bind (readPlain rest)

/-- Reads arguments; `waiting` is the option whose number must come next. -/
def read : List String → (waiting : Option Numbered) → Draft → Option Draft
  | [], none, d => some d
  | [], some _, _ => none
  | arg :: rest, some o, d =>
    match form arg with
    | .plain => (d.addNumber o arg.toList).bind (read rest none)
    | _ => none
  | arg :: rest, none, d =>
    if arg = "--" then readPlain rest d
    else match form arg with
      | .plain => (d.addPath arg).bind (read rest none)
      | .switch s => (d.addSwitch s).bind (read rest none)
      | .numbered o (some cs) => (d.addNumber o cs).bind (read rest none)
      | .numbered o none => read rest (some o) d
      | .unknown => none

def parse (args : List String) : Option Arguments := (read args none {}).bind Draft.finish

end Arguments

end Chip8
