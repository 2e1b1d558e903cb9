import DrivewayWatch.Image.Jpeg.Reading
import DrivewayWatch.Image.Png

/-!
# Picture files

A picture arrives as a file of one of two formats.  Its first bytes tell which.
-/

namespace DrivewayWatch.Picture

def decode? (file : Bytes) : Option Frame :=
  if Png.signature.isPrefixOf file then Png.decode? file else Jpeg.decode? file

end DrivewayWatch.Picture
