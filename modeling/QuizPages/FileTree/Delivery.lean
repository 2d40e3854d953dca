import QuizPages.FileTree.Access

/-!
# Delivering a text

A text is written into a file whose directory is made first if it is missing.
-/

namespace QuizPages

/-- Why a text was not delivered. -/
inductive DeliveryError where
  | noDirectory (directory : Path) (e : FileError)
  | noFile (file : Path) (e : FileError)
  deriving DecidableEq, Repr

namespace DeliveryError

def message : DeliveryError → Text
  | noDirectory directory _ => "Failed to create " ++ directory.text
  | noFile file _ => "Failed to write " ++ file.text

/-- What lies behind. -/
def cause : DeliveryError → Text
  | noDirectory _ e | noFile _ e => e.message

end DeliveryError

/-- Writes a text into a file. A directory that could be made stays, even if the file cannot be
written. -/
def FileTree.deliver (t : FileTree) (target : Path) (text : Text) :
    FileTree × Except DeliveryError Unit :=
  let (t, made) :=
    match target.parent? with
    | some dir =>
      let (t, made) := t.makeAll dir
      (t, made.mapError (DeliveryError.noDirectory dir))
    | none => (t, .ok ())
  match made with
  | .error e => (t, .error e)
  | .ok () =>
    match t.write target text.octets with
    | .ok t => (t, .ok ())
    | .error e => (t, .error (.noFile target e))

end QuizPages
