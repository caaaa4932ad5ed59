/-
# Faults of the host

Why an access to the host can fail: the host refused it with an error number, or the access could
not be made or its result not be used. Every fault has a kind and a text.
-/
import SingleRoot.Text.Numeral

namespace SingleRoot.Host

/-- The error numbers of the host. A walk through a tree ends with few of them; all but one can come from
a damaged directory, and all are worded, for faults that are given from outside. -/
inductive Errno where
  | notPermitted
  | noSuchEntry
  | inputOutput
  | accessDenied
  | busy
  | entryExists
  | noSuchDevice
  | notDirectory
  | isDirectory
  | invalidArgument
  | noSpace
  | readOnly
  | nameTooLong
  | tooManyLinks
  deriving DecidableEq, Repr

namespace Errno

/-- Every error number. -/
def all : List Errno :=
  [notPermitted, noSuchEntry, inputOutput, accessDenied, busy, entryExists, noSuchDevice,
   notDirectory, isDirectory, invalidArgument, noSpace, readOnly, nameTooLong, tooManyLinks]

/-- The number by which the host reports the error. -/
def code : Errno → Nat
  | notPermitted => 1
  | noSuchEntry => 2
  | inputOutput => 5
  | accessDenied => 13
  | busy => 16
  | entryExists => 17
  | noSuchDevice => 19
  | notDirectory => 20
  | isDirectory => 21
  | invalidArgument => 22
  | noSpace => 28
  | readOnly => 30
  | nameTooLong => 36
  | tooManyLinks => 40

/-- The host's own description of the error. -/
def text : Errno → String
  | notPermitted => "Operation not permitted"
  | noSuchEntry => "No such file or directory"
  | inputOutput => "Input/output error"
  | accessDenied => "Permission denied"
  | busy => "Device or resource busy"
  | entryExists => "File exists"
  | noSuchDevice => "No such device"
  | notDirectory => "Not a directory"
  | isDirectory => "Is a directory"
  | invalidArgument => "Invalid argument"
  | noSpace => "No space left on device"
  | readOnly => "Read-only file system"
  | nameTooLong => "File name too long"
  | tooManyLinks => "Too many levels of symbolic links"

/-- The error that the host reports by a number. -/
def ofCode? (code : Nat) : Option Errno :=
  all.find? (·.code == code)

end Errno

/-- The kind of a fault that is no error number of the host. -/
inductive FaultKind where
  | notFound
  | permissionDenied
  | alreadyExists
  | invalidInput
  | invalidData
  | timedOut
  | unexpectedEnd
  | other
  deriving DecidableEq, Repr

/-- What a fault says when it has no text of its own. -/
def FaultKind.text : FaultKind → String
  | notFound => "entity not found"
  | permissionDenied => "permission denied"
  | alreadyExists => "entity already exists"
  | invalidInput => "invalid input parameter"
  | invalidData => "invalid data"
  | timedOut => "timed out"
  | unexpectedEnd => "unexpected end of file"
  | other => "other error"

/-- Why an access to the host failed. -/
inductive Fault where
  | system (errno : Errno)
  | bare (kind : FaultKind)
  | described (kind : FaultKind) (text : String)
  deriving DecidableEq, Repr

namespace Fault

/-- A file that should be text and is not. -/
def notText : Fault := .described .invalidData "stream did not contain valid UTF-8"

/-- A path that no entry can have. -/
def nulInPath : Fault := .described .invalidInput "file name contained an unexpected NUL byte"

/-- A driver name that cannot name a directory of its own. -/
def invalidDriverName : Fault := .described .invalidInput "invalid driver name"

/-- The text of a fault. -/
def message : Fault → String
  | .system errno => errno.text ++ " (os error " ++ Text.decimal errno.code ++ ")"
  | .bare kind => kind.text
  | .described _ text => text

/-- Whether the fault says that nothing is there. -/
def isAbsence : Fault → Bool
  | .system errno => errno == .noSuchEntry
  | .bare kind | .described kind _ => kind == .notFound

end Fault

end SingleRoot.Host
