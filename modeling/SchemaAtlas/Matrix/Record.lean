/-! # Records of comma-separated fields

A field is quoted when it holds a comma, a quote or a line feed, and a quote inside it is written
twice. A line feed ends each record. Any other character, a carriage return included, stands for
itself.
-/

namespace SchemaAtlas.Matrix

/-- Whether a character makes its field need quotes. -/
def needsQuotes (c : Char) : Bool := c == ',' || c == '"' || c == '\n'

/-- A field with its quotes written twice. -/
def doubled (cs : List Char) : List Char := cs.flatMap fun c => if c = '"' then ['"', '"'] else [c]

/-- A field as it is written. -/
def writeField (cs : List Char) : List Char :=
  if cs.any needsQuotes then '"' :: doubled cs ++ ['"'] else cs

/-- A record with its line feed. -/
def writeRecord : List (List Char) → List Char
  | [] => ['\n']
  | [field] => writeField field ++ ['\n']
  | field :: fields => writeField field ++ ',' :: writeRecord fields

/-- Records one after the other. -/
def writeRecords (records : List (List (List Char))) : List Char := records.flatMap writeRecord

/-- Records of strings as one string. -/
def write (records : List (List String)) : String :=
  String.ofList (writeRecords (records.map (·.map String.toList)))

end SchemaAtlas.Matrix
