import DrivewayWatch.Bytes.Hex
import DrivewayWatch.Bytes.Sha256

/-!
# Copies of photos

Every photo can be copied into a directory, under a name that is made from its content.  A photo
that is copied again replaces itself.
-/

namespace DrivewayWatch.ImageCopy

def fileName (photo : Bytes) : String :=
  String.ofList (Hex.encode (Sha256.digest photo)) ++ ".jpg"

def pathIn (directory name : String) : String :=
  if directory.isEmpty || directory.toList.getLast? == some '/' then directory ++ name
  else directory ++ "/" ++ name

abbrev Directory : Type := List (String × Bytes)

/-- Writes a file, in place of an earlier one with the same name. -/
def put (directory : Directory) (name : String) (content : Bytes) : Directory :=
  directory.filter (·.1 != name) ++ [(name, content)]

def write (directory : Directory) (photo : Bytes) : Directory :=
  put directory (fileName photo) photo

end DrivewayWatch.ImageCopy
