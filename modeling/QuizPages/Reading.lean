import QuizPages.FileTree.Access
import QuizPages.Report.Item

/-!
# Reading pages

The text of a page file, or why it is passed over: it cannot be read, is too large, or is no text.
A text is never cut. What is not UTF-8 is replaced piece by piece, or the page is passed over, as
the options say.
-/

namespace QuizPages

/-- Why a file is passed over. -/
inductive Skip where
  /-- Nothing is known about the file. -/
  | unknown (e : FileError)
  /-- The file is larger than the limit. -/
  | oversized (size limit : Nat)
  | unreadable (e : FileError)
  /-- There is a NUL near the start. -/
  | binary
  /-- The content is not UTF-8, and nothing may be replaced. -/
  | malformed
  deriving DecidableEq, Repr

namespace Skip

def code : Skip → Text
  | unknown _ | unreadable _ => "FILE_UNREADABLE"
  | oversized .. => "FILE_SKIPPED_SIZE"
  | binary => "BINARY_FILE"
  | malformed => "FILE_SKIPPED_ENCODING"

def message : Skip → Text
  | unknown e => "Cannot read metadata: " ++ e.message
  | unreadable e => "Cannot read file: " ++ e.message
  | oversized size limit =>
    "File exceeds size limit (" ++ Text.ofNat size ++ " > " ++ Text.ofNat limit ++ " bytes)"
  | binary => "File appears to be binary (contains null bytes)"
  | malformed => "File contains invalid UTF-8 sequences"

end Skip

/-- What became of a file that was to be read. -/
inductive Reading where
  | skipped (reason : Skip)
  /-- The text, the size on disk in octets, and whether some octets were replaced. -/
  | loaded (text : Text) (size : Nat) (replaced : Bool)

namespace Reading

structure Options where
  /-- The largest size that is read, in octets. -/
  limit : Nat := 16 * 1024 * 1024
  /-- Whether malformed octets are replaced. -/
  replacing : Bool := true

/-- How many octets are searched for a NUL. -/
def probed : Nat := 8192

/-- The size of a directory, in octets. -/
def directorySize : Nat := 4096

/-- The size of an entry, in octets. -/
def sizeOf : Entry → Nat
  | .directory => directorySize
  | .file content => content.length
  | .link target => target.text.size

/-- The reading of a content. -/
def ofOctets (options : Options) (content : Octets) : Reading :=
  if (content.take probed).contains 0 then .skipped .binary
  else if Utf8.isValid content then .loaded (Utf8.decode content) content.length false
  else if options.replacing then .loaded (Utf8.decode content) content.length true
  else .skipped .malformed

/-- The reading of the file at a path. -/
def ofPath (options : Options) (t : FileTree) (p : Path) : Reading :=
  match t.entryAt p with
  | .error e => .skipped (.unknown e)
  | .ok (_, entry) =>
    if options.limit < sizeOf entry then .skipped (.oversized (sizeOf entry) options.limit)
    else
      match t.read p with
      | .error e => .skipped (.unreadable e)
      | .ok content => ofOctets options content

/-- The text, if there is one. -/
def text? : Reading → Option Text
  | skipped _ => none
  | loaded text _ _ => some text

/-- The size on disk, if there is a text. -/
def size? : Reading → Option Nat
  | skipped _ => none
  | loaded _ size _ => some size

/-- Whether some octets were replaced. -/
def replaced : Reading → Bool
  | skipped _ => false
  | loaded _ _ replaced => replaced

/-- What is to be said about a reading. -/
def warnings : Reading → List Fault
  | skipped reason => [⟨reason.code, reason.message⟩]
  | loaded _ _ true =>
    [⟨"LOSSY_CONVERSION", "Lossy UTF-8 conversion applied (some characters replaced)"⟩]
  | loaded _ _ false => []

/-- Why there is no text: the first thing to be said. -/
def skippedReason? (r : Reading) : Option Text :=
  if r.text?.isSome then none else r.warnings.head?.map (·.message)

/-- The warnings as items for a path. -/
def items (r : Reading) (path : Text) : List Item :=
  r.warnings.map fun f => { Item.ofFault .warning f with path := some path }

end Reading
end QuizPages
