import ArchiveSearch.Text.Quoted

/-!
# Failures

Why an operation as a whole fails, and how that is told to the user.
-/

namespace ArchiveSearch

/-- Why a file cannot be read or written. -/
inductive FileFault where
  | missing
  | isDirectory
  | notDirectory
  /-- The bytes of the file are no text. -/
  | notText
deriving DecidableEq, Repr

namespace FileFault

def message : FileFault → String
  | missing => "No such file or directory (os error 2)"
  | isDirectory => "Is a directory (os error 21)"
  | notDirectory => "Not a directory (os error 20)"
  | notText => "stream did not contain valid UTF-8"

end FileFault

/-- What can be wrong with settings. -/
inductive SettingsFault where
  /-- The file does not have the form of settings. -/
  | unreadable
  /-- A number is too large for the file. -/
  | tooLarge
  | unknownZone (name : String)
  /-- There is no home directory to keep the file in. -/
  | noConfigDirectory
  /-- There is no home directory to keep the library in. -/
  | noDataDirectory
deriving DecidableEq, Repr

namespace SettingsFault

def message : SettingsFault → String
  | unreadable => "Failed to parse config: unexpected contents"
  | tooLarge => "Failed to serialize config: out-of-range value for u64 type"
  | unknownZone name => "invalid time zone " ++ Text.quoted name ++ ": unexpected name"
  | noConfigDirectory => "Could not determine config directory"
  | noDataDirectory => "Could not determine data directory"

end SettingsFault

/-- Why an operation fails. -/
inductive Failure where
  /-- Terms of the query could not be used. -/
  | invalidQuery (messages : List String)
  | libraryNotFound (path : String)
  | corruptedBook (path : String)
  | settings (fault : SettingsFault)
  | file (fault : FileFault)
  /-- A text does not have the form that it should have. -/
  | malformed
deriving DecidableEq, Repr

namespace Failure

def message : Failure → String
  | invalidQuery messages => "invalid query: " ++ "; ".intercalate messages
  | libraryNotFound path => "library not found at " ++ path
  | corruptedBook path => "book file " ++ path ++ " is corrupted: unexpected contents"
  | settings fault => "configuration error: " ++ fault.message
  | file fault => "I/O error: " ++ fault.message
  | malformed => "serialization error: unexpected contents"

/-- What lies behind a failure, where that is more than the failure itself. -/
def cause? : Failure → Option String
  | file fault => some fault.message
  | _ => none

/-- Whether the query is to blame. -/
def isOfQuery : Failure → Bool
  | invalidQuery _ => true
  | _ => false

end Failure

end ArchiveSearch
