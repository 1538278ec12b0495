namespace WindowDoc

-- Why a file cannot be opened.
inductive OpenFault where
  | missing
  | nameTooLong
  | nulInName
deriving DecidableEq

def OpenFault.message : OpenFault → String
  | missing => "No such file or directory (os error 2)"
  | nameTooLong => "File name too long (os error 36)"
  | nulInName => "file name contained an unexpected NUL byte"

-- What stands under a name.
inductive File where
  | directory
  | contents (bytes : ByteArray)

-- The first part of a path that names an entry of a directory rather than the directory
-- itself or the one above it.
def firstEntry? (name : String) : Option String :=
  (name.splitOn "/").find? fun part => part != "" && part != "." && part != ".."

-- Open a file in a directory that holds nothing but what is stored under the name. A name may
-- not hold a NUL. A path is limited to 4095 bytes and each part of it to 255.
def openFile (stored : Option File) (name : String) : Except OpenFault File :=
  if name.toList.contains '\x00' then .error .nulInName
  else if 4095 < name.utf8ByteSize then .error .nameTooLong
  else
    match stored, firstEntry? name with
    | some file, _ => .ok file
    | none, none => if name = "" then .error .missing else .ok .directory
    | none, some part => if 255 < part.utf8ByteSize then .error .nameTooLong else .error .missing

end WindowDoc
