/-!
# Faults

What can go wrong with a user's rules and with the files of a scan. Each cause has its words; where
the words of the system or of a reader of another format would follow, they are left out.
-/

namespace FeatureScan

/-- Why something could not be done. -/
inductive Fault
  /-- The text of a rule document is no document. -/
  | malformedDocument
  /-- A rule document is no object. -/
  | documentNoObject
  /-- A rule without patterns. -/
  | noPatterns (rule : String)
  /-- A pattern of a rule that is none. -/
  | invalidPattern (rule pattern : String)
  /-- A file that does not exist. -/
  | fileNotFound (path : String)
  /-- A file whose bytes are no text. -/
  | invalidEncoding (path : String)
  /-- A file in none of the languages. -/
  | unsupportedType (path : String)
  /-- A file that cannot be read. -/
  | unreadable
  /-- A file that cannot be written. -/
  | unwritable
  deriving DecidableEq, Repr

/-- The words for a fault. -/
def Fault.message : Fault → String
  | malformedDocument => "Malformed custom rules"
  | documentNoObject => "Malformed custom rules: top-level value is not an object"
  | noPatterns rule => "Invalid input: rule [" ++ rule ++ "] has no patterns"
  | invalidPattern .. => "Invalid pattern for rule"
  | fileNotFound path => "File not found: " ++ path
  | invalidEncoding path => "File is not valid UTF-8: " ++ path
  | unsupportedType path => "Unsupported file type: " ++ path
  | unreadable => "IO error"
  | unwritable => "Failed to save custom rules"

end FeatureScan
