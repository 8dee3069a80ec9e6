import Tunnel.Config.Reader
import Tunnel.Config.Writer
import Tunnel.Directory
import Tunnel.Report

/-!
# Configuration files

A configuration is kept in a file, in the layout with one item a line. Loading it takes three steps
that can fail: the file has to be there and hold text, the text has to be a configuration, and a
session has to be possible by it. Saving does not ask whether it is.

## Main definitions

* `Config.ofFile`, `Config.load` — the configuration in a file
* `Config.save` — the directory with a configuration in a file
* `Config.Invalid.cause` — why no session is possible, as a cause
* `Config.IsIn` — a configuration was read, parsed and accepted

## Main results

* `Config.ofFile_eq_ok_iff` — what loading a configuration takes
-/

namespace Tunnel

/-- Why no session is possible, as a cause. -/
def Config.Invalid.cause : Config.Invalid → Cause
  | badName name => .failure (.invalidName name)
  | noFamily => .message "At least one address family must be enabled"
  | unroutableFamily => .message "Only ipv4 and ipv6 can be enabled"

namespace Directory

/-- What is wrong with a path that no system call takes. -/
def pathFault? (path : String) : Option SystemError :=
  if path.toList.contains '\x00' then
    some (.custom "file name contained an unexpected NUL byte")
  else none

/-- The text in a file. -/
def readText (directory : Directory) (path : String) : Except SystemError String :=
  match pathFault? path with
  | some fault => .error fault
  | none =>
    match directory.read path with
    | .error code => .error (.number code)
    | .ok content =>
      match Bytes.toText? content with
      | some text => .ok text
      | none => .error (.custom "stream did not contain valid UTF-8")

/-- The directory with a text written into a file. -/
def writeText (directory : Directory) (path text : String) : Except SystemError Directory :=
  match pathFault? path with
  | some fault => .error fault
  | none => (directory.write path (Bytes.ofText text)).mapError .number

end Directory

namespace Config

/-- The configuration that a text holds, if a session is possible by it. -/
def ofFileText (path text : String) : Except Report Config :=
  match ofText text with
  | .error fault =>
    .error ((Report.ofCause (.unreadable fault)).within ("Failed to parse config file: " ++ path))
  | .ok config =>
    match config.validate with
    | .error invalid => .error (.ofCause invalid.cause)
    | .ok () => .ok config

/-- The configuration in the file at `path`, given the text in it or why it cannot be read. -/
def ofFile (path : String) (text : Except SystemError String) : Except Report Config :=
  match text with
  | .error fault =>
    .error ((Report.ofCause (.system fault)).within ("Failed to read config file: " ++ path))
  | .ok text => ofFileText path text

/-- The configuration in a file of a directory. -/
def load (directory : Directory) (path : String) : Except Report Config :=
  ofFile path (directory.readText path)

/-- The directory with the configuration written into a file. -/
def save (config : Config) (directory : Directory) (path : String) : Except Report Directory :=
  (directory.writeText path (config.toText .pretty)).mapError fun fault =>
    (Report.ofCause (.system fault)).within ("Failed to write config file: " ++ path)

/-- The text was read, it holds the configuration, and a session is possible by that. -/
def IsIn (config : Config) (text : Except SystemError String) : Prop :=
  ∃ content, text = .ok content ∧ Config.ofText content = .ok config ∧ config.validate = .ok ()

/-- **What loading a configuration takes.** -/
theorem ofFile_eq_ok_iff {path : String} {text : Except SystemError String} {config : Config} :
    ofFile path text = .ok config ↔ config.IsIn text := by
  constructor
  · intro h
    cases text with
    | error fault => cases h
    | ok content =>
      refine ⟨content, rfl, ?_⟩
      change ofFileText path content = .ok config at h
      unfold ofFileText at h
      cases hparsed : ofText content with
      | error fault => rw [hparsed] at h; cases h
      | ok parsed =>
        rw [hparsed] at h
        cases hvalid : parsed.validate with
        | error invalid => simp only [hvalid] at h; cases h
        | ok _ =>
          simp only [hvalid] at h
          cases h
          exact ⟨rfl, hvalid⟩
  · rintro ⟨content, rfl, hparsed, hvalid⟩
    change ofFileText path content = .ok config
    unfold ofFileText
    simp only [hparsed, hvalid]

end Config

end Tunnel
