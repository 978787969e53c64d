import FormatPipeline.Text.Blank
import FormatPipeline.Text.Pieces

/-! Slash-separated paths: a spelling that is kept, its components, and the entries that spell them. -/

namespace FormatPipeline

/-- A path as it was spelled; printing gives the spelling back. -/
structure Path where
  text : String
  deriving DecidableEq, Repr, Inhabited

namespace Path

/-- One step of a path. -/
inductive Component where
  /-- The leading slash. -/
  | root
  /-- A leading dot. -/
  | current
  /-- Two dots. -/
  | up
  /-- Any other name. -/
  | name (text : List Char)
  deriving DecidableEq, Repr

/-- The leading slash or dot of a spelling, and the rest. -/
def splitAnchor : List Char → List Char × List Char
  | '/' :: rest => (['/'], rest)
  | ['.'] => (['.'], [])
  | '.' :: '/' :: rest => (['.'], '/' :: rest)
  | rest => ([], rest)

/-- Between slashes, an empty piece and a dot name nothing. -/
def isIdle (piece : List Char) : Bool :=
  piece = [] || piece = ['.']

/-- The component that a piece between slashes names. -/
def Component.ofPiece (piece : List Char) : Component :=
  if piece = ['.', '.'] then .up else .name piece

/-- The component that the leading slash or dot names. -/
def Component.ofAnchor (anchor : List Char) : List Component :=
  if anchor = ['/'] then [.root] else if anchor = ['.'] then [.current] else []

/-- The components of a spelling. -/
def componentsOf (cs : List Char) : List Component :=
  let (anchor, body) := splitAnchor cs
  Component.ofAnchor anchor ++ ((Text.pieces '/' body).filter (!isIdle ·)).map Component.ofPiece

/-- The components of a path. -/
def components (p : Path) : List Component := componentsOf p.text.toList

/-- Two paths are the same when they have the same components, however they are spelled. -/
def same (p q : Path) : Bool := p.components == q.components

/-- Whether the path begins with a slash. -/
def isAbsolute (p : Path) : Bool := p.text.toList.head? == some '/'

/-- Whether all components of the second path begin the first one. -/
def startsWith (p q : Path) : Bool := q.components.isPrefixOf p.components

/-- The enclosing directories for pieces in reverse order, innermost first. -/
def outwardPieces (anchor : List Char) : List (List Char) → List Path
  | [] => if anchor = ['.'] then [⟨""⟩] else []
  | piece :: outer =>
    -- Dropping a piece also drops the idle ones in front of it.
    if isIdle piece then outwardPieces anchor outer
    else ⟨.ofList (anchor ++ Text.glue '/' (outer.dropWhile isIdle).reverse)⟩
      :: outwardPieces anchor outer

/-- The directories around a path, innermost first. -/
def outward (p : Path) : List Path :=
  let (anchor, body) := splitAnchor p.text.toList
  outwardPieces anchor (Text.pieces '/' body).reverse

/-- The path without its last component; a root and an empty path have none. -/
def parent? (p : Path) : Option Path := p.outward.head?

/-- The path as it is spelled, and then the directories around it. -/
def ancestors (p : Path) : List Path := p :: p.outward

/-- The name inside the directory; an absolute name stands for itself. -/
def join (directory : Path) (name : String) : Path :=
  if name.toList.head? = some '/' then ⟨name⟩
  else if directory.text.isEmpty ∨ directory.text.toList.getLast? = some '/' then ⟨directory.text ++ name⟩
  else ⟨directory.text ++ "/" ++ name⟩

end Path

/-- The path that an entry spells, with a tilde in front standing for the home directory. -/
def Path.expandHome (home : Option Path) (entry : String) : Path :=
  let entry := Text.trim entry
  match home, entry.toList with
  | some home, ['~'] => home
  | some home, '~' :: '/' :: rest => home.join (.ofList rest)
  | some home, '~' :: '\\' :: rest => home.join (.ofList rest)
  | _, _ => ⟨entry⟩

/-- Whether an entry is a path of its own and not a name to search for. -/
def isPathEntry (entry : String) : Bool :=
  let first := (Text.trim entry).toList.head?
  first == some '/' || first == some '~'

/-- The characters that no file name may hold, control codes apart. -/
def isForbiddenInName (c : Char) : Bool :=
  c == '<' || c == '>' || c == ':' || c == '"' || c == '|' || c == '?' || c == '*'

/-- Whether an entry can be a file name or a relative path. -/
def isValidFileName (entry : String) : Bool :=
  !Text.allBlank entry && entry.toList.all fun c => !Text.isControl c && !isForbiddenInName c

end FormatPipeline
