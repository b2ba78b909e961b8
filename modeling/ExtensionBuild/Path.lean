import ExtensionBuild.Text.Pieces

/-! File paths as text with the slash as separator. The text is kept exactly as given; its
components are a view in which doubled slashes and inner dots vanish. A path begins with a lead,
which is the root, a dot standing alone at the front, or nothing, and goes on with segments. -/
namespace ExtensionBuild

structure Path where
  chars : List Char
deriving DecidableEq, Repr, Inhabited

abbrev Segment := List Char

namespace Path

def ofText (s : String) : Path := ⟨s.toList⟩

def text (p : Path) : String := String.ofList p.chars

@[simp] theorem text_ofText (s : String) : (ofText s).text = s := by simp [ofText, text]

@[simp] theorem ofText_text (p : Path) : ofText p.text = p := by simp [ofText, text]

@[simp] theorem ofText_comp_text : ofText ∘ text = id := funext ofText_text

inductive Component
  | root
  | here
  | up
  | name (segment : Segment)
deriving DecidableEq, Repr

def isAbsolute (p : Path) : Bool := p.chars.head? == some '/'

def segments (s : List Char) : List Segment := Text.pieces (· == '/') s

def ofSegments (parts : List Segment) : List Char := Text.joined ['/'] parts

/-- A segment that names nothing: an empty one or a dot. -/
def isFiller (s : Segment) : Bool := s == [] || s == ['.']

/-- The front of a path that is not a segment: the root, or a dot that stands for the current
directory. -/
def lead : List Char → List Char
  | '/' :: _ => ['/']
  | ['.'] => ['.']
  | '.' :: '/' :: _ => ['.']
  | _ => []

def body (s : List Char) : List Char := s.drop (lead s).length

/-- The segments behind the lead, last one first, without the fillers at the end of the path. -/
def backwards (p : Path) : List Segment := (segments (body p.chars)).reverse.dropWhile isFiller

def components (p : Path) : List Component :=
  let front := match lead p.chars with
    | ['/'] => [Component.root]
    | ['.'] => [Component.here]
    | _ => []
  front ++ ((segments (body p.chars)).filter (! isFiller ·)).map fun s =>
    if s == ['.', '.'] then .up else .name s

/-- The path without its last component; the root and the empty path have no parent. -/
def parent (p : Path) : Option Path :=
  match backwards p with
  | [] => if lead p.chars == ['.'] then some ⟨[]⟩ else none
  | _ :: before => some ⟨lead p.chars ++ ofSegments (before.dropWhile isFiller).reverse⟩

/-- The last component when it is a name. -/
def fileName (p : Path) : Option Segment :=
  match backwards p with
  | [] => none
  | last :: _ => if last == ['.', '.'] then none else some last

/-- A name cut at its last dot; a name whose only dot is its first character is all stem. -/
def stemAndExtension (name : Segment) : Segment × Option Segment :=
  match name.reverse.dropWhile (· != '.') with
  | [] => (name, none)
  | [_] => (name, none)
  | _ :: stem => (stem.reverse, some (name.reverse.takeWhile (· != '.')).reverse)

def fileStem (p : Path) : Option Segment := (fileName p).map fun name => (stemAndExtension name).1

def extension (p : Path) : Option Segment :=
  (fileName p).bind fun name => (stemAndExtension name).2

/-- The path cut behind its file stem and continued with a dot and `ext`; unchanged when it has no
file stem. -/
def setExtension (p : Path) (ext : Segment) : Path :=
  match backwards p, fileStem p with
  | _ :: before, some stem =>
    ⟨lead p.chars ++ ofSegments (before.reverse ++ [stem ++ '.' :: ext])⟩
  | _, _ => p

/-- The path with its extension, if any, cut from the end of the text and `ext` set in its place. -/
def withExtension (p : Path) (ext : Segment) : Path :=
  match extension p with
  | none => setExtension p ext
  | some previous => setExtension ⟨p.chars.take (p.chars.length - previous.length)⟩ ext

/-- The second path seen from the first: an absolute one replaces it, any other is appended behind a
slash. -/
def join (p q : Path) : Path :=
  if q.isAbsolute then q
  else if p.chars.isEmpty || p.chars.getLast? == some '/' then ⟨p.chars ++ q.chars⟩
  else ⟨p.chars ++ '/' :: q.chars⟩

def joinText (p : Path) (s : String) : Path := join p (ofText s)

def append (p : Path) (suffix : String) : Path := ⟨p.chars ++ suffix.toList⟩

def Component.text : Component → List Char
  | .root => ['/']
  | .here => ['.']
  | .up => ['.', '.']
  | .name s => s

def joinComponents (p : Path) (components : List Component) : Path :=
  components.foldl (fun here c => join here ⟨c.text⟩) p

def weight : List Segment → Nat
  | [] => 0
  | s :: rest => s.length + 1 + weight rest

private theorem weight_append (l k : List Segment) : weight (l ++ k) = weight l + weight k := by
  induction l with
  | nil => simp [weight]
  | cons s rest ih =>
    simp only [List.cons_append, weight, ih]
    omega

private theorem weight_reverse (l : List Segment) : weight l.reverse = weight l := by
  induction l with
  | nil => rfl
  | cons s rest ih =>
    simp only [List.reverse_cons, weight_append, weight, ih]
    omega

private theorem weight_dropWhile_le (p : Segment → Bool) (l : List Segment) :
    weight (l.dropWhile p) ≤ weight l := by
  induction l with
  | nil => exact Nat.le_refl _
  | cons s rest ih =>
    rw [List.dropWhile_cons]
    split
    · simp only [weight]
      omega
    · exact Nat.le_refl _

private theorem length_ofSegments (parts : List Segment) :
    (ofSegments parts).length + 1 = weight parts + if parts.isEmpty then 1 else 0 := by
  unfold ofSegments
  induction parts with
  | nil => rfl
  | cons s rest ih =>
    cases rest with
    | nil => simp [Text.joined, weight]
    | cons t others =>
      simp only [Text.joined, List.length_append, weight, List.isEmpty_cons] at ih ⊢
      simp at ih ⊢
      omega

private theorem lead_length_le (s : List Char) : (lead s).length ≤ s.length := by
  unfold lead
  split <;> simp

theorem parent_length_lt {p q : Path} (h : p.parent = some q) :
    q.chars.length < p.chars.length := by
  unfold parent at h
  have whole : weight (segments (body p.chars)) = (body p.chars).length + 1 := by
    have := length_ofSegments (segments (body p.chars))
    unfold ofSegments segments at this
    rw [Text.joined_pieces] at this
    have some : (Text.pieces (· == '/') (body p.chars)).isEmpty = false := by
      simpa using Text.pieces_ne_nil _ _
    simp only [some] at this
    simpa [segments] using this.symm
  have front : (lead p.chars).length + (body p.chars).length = p.chars.length := by
    have := lead_length_le p.chars
    simp only [body, List.length_drop]
    omega
  split at h
  · split at h
    · rename_i dot
      have : lead p.chars = ['.'] := by simpa using dot
      injection h with h
      subst h
      rw [this] at front
      simp at front ⊢
      omega
    · simp at h
  · rename_i last before back
    injection h with h
    subst h
    have dropped := weight_dropWhile_le isFiller (segments (body p.chars)).reverse
    rw [weight_reverse, whole] at dropped
    unfold backwards at back
    have named := List.head?_dropWhile_not isFiller (segments (body p.chars)).reverse
    rw [back] at dropped named
    have long : 0 < last.length := by
      cases last with
      | nil => simp [isFiller] at named
      | cons c rest => simp
    simp only [weight] at dropped
    have again := weight_dropWhile_le isFiller before
    have size := length_ofSegments (before.dropWhile isFiller).reverse
    rw [weight_reverse] at size
    simp only [List.length_append]
    split at size <;> omega

/-- The path and its successive parents, nearest first. -/
def selfAndAncestors (p : Path) : List Path :=
  match _h : p.parent with
  | none => [p]
  | some q => p :: selfAndAncestors q
termination_by p.chars.length
decreasing_by exact parent_length_lt _h

end Path
end ExtensionBuild
