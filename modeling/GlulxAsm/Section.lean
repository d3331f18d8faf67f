import GlulxAsm.Image

/-! The memory sections that a header describes. -/
namespace GlulxAsm

inductive SectionKind where
  | header
  | rom
  | ram
  | ext
deriving DecidableEq

namespace SectionKind

def name : SectionKind → String
  | header => "header"
  | rom => "rom"
  | ram => "ram"
  | ext => "ext"

/-- Whether the section can be read, written and executed. -/
def permissions : SectionKind → String
  | header => "r--"
  | rom => "r-x"
  | ram => "rwx"
  | ext => "rw-"

end SectionKind

/-- The addresses from `start` up to `limit`. -/
structure Section where
  kind : SectionKind
  start : UInt32
  limit : UInt32
deriving DecidableEq

namespace Image

/-- Header, ROM, RAM and the memory behind the image, as far as the image reaches. ROM and the memory
behind are left out when there is none. -/
def sections (image : Image) : List Section :=
  let header := image.header
  let headerEnd := UInt32.ofNat Header.size
  let length := UInt32.ofNat image.bytes.length
  let ramEnd := min header.extStart length
  [⟨.header, 0, headerEnd⟩] ++
    (if headerEnd < header.ramStart then [⟨.rom, headerEnd, min header.ramStart length⟩] else []) ++
    [⟨.ram, min header.ramStart ramEnd, ramEnd⟩] ++
    (if ramEnd < header.endMem then [⟨.ext, ramEnd, header.endMem⟩] else [])

end Image

end GlulxAsm
