import Chip8.CommandLine.Session

/-!
# The command

Reads a program from a file and what was typed from standard input, plays the program, and
writes the picture it ends with to standard output and the log to standard error.
-/

open Chip8

def openFile (path : String) : IO Opened := do
  try
    let content ← IO.FS.readBinFile path
    return .bytes content.toList
  catch
    | .noFileOrDirectory .. => return .refused .notFound
    | e => return .unreadable (.other 5 "Other" (toString e))

/-- The level that a word of the environment names. -/
def levelNamed : String → Option Level
  | "error" => some .error
  | "warn" => some .warn
  | "info" => some .info
  | "debug" => some .debug
  | "trace" => some .trace
  | _ => none

def readEntropy : IO ChaCha.Key := do
  let bytes ← IO.getRandomBytes 32
  return bytes.foldl (fun key byte => key <<< 8 ||| byte.toBitVec.setWidth 256) 0

def main (args : List String) : IO UInt32 := do
  match Arguments.parse args with
  | none =>
    IO.eprintln "usage: ROM [-c N] [--shift-in-place] [--frames N] [--mute] [--seed N]"
    return 2
  | some a =>
    let typed ← (← IO.getStdin).readToEnd
    let threshold := ((← IO.getEnv "LOG_LEVEL").map levelNamed).getD (some .error)
    let surroundings : Surroundings :=
      { terminal := ⟨80, 40⟩, typed, threshold, entropy := ← readEntropy }
    let outcome := Session.run a (← openFile a.path) surroundings
    for row in outcome.terminal.picture do
      IO.println (Terminal.rowText row)
    unless a.mute do
      for _ in List.range outcome.beeps do
        IO.print "\x07"
    for line in outcome.log.getD [] do
      IO.eprintln line
    return UInt32.ofNat outcome.exitCode
