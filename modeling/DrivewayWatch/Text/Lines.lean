import DrivewayWatch.Text.Utf8

/-!
# Lines

A line ends with a line feed.  What stands behind the last line feed is a line of its own unless it
is empty.
-/

namespace DrivewayWatch.Text.Lines

def lineFeed : UInt8 := 10

def addFront (byte : UInt8) : List Bytes → List Bytes
  | [] => [[byte]]
  | line :: lines => (byte :: line) :: lines

/-- The lines of a text, without the line feeds. -/
def ofBytes : Bytes → List Bytes
  | [] => []
  | byte :: rest =>
    if byte = lineFeed then [] :: ofBytes rest else addFront byte (ofBytes rest)

end DrivewayWatch.Text.Lines
