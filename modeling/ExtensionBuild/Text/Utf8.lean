/-! UTF-8 decoding that survives ill-formed input. The bytes are read by a machine that holds at
most one unfinished character; a byte that cannot continue it ends an ill-formed part and is read
again as a first byte, so every ill-formed part is a longest beginning of some character, or one
byte that can begin none. -/
namespace ExtensionBuild.Text.Utf8

/-- A character begun but not finished: its bits so far, the number of bytes still due and the range
of the next byte. -/
structure Unfinished where
  bits : Nat
  due : Nat
  low : UInt8
  high : UInt8

inductive First
  | whole (c : Char)
  | begun (rest : Unfinished)
  | stray

/-- What one byte means at the start of a character. The narrowed ranges exclude overlong forms,
surrogates and values above the last code point. -/
def first (b : UInt8) : First :=
  let n := b.toNat
  if n < 0x80 then .whole (Char.ofNat n)
  else if n < 0xC2 then .stray
  else if n < 0xE0 then .begun ⟨n - 0xC0, 1, 0x80, 0xBF⟩
  else if n == 0xE0 then .begun ⟨0, 2, 0xA0, 0xBF⟩
  else if n == 0xED then .begun ⟨0xD, 2, 0x80, 0x9F⟩
  else if n < 0xF0 then .begun ⟨n - 0xE0, 2, 0x80, 0xBF⟩
  else if n == 0xF0 then .begun ⟨0, 3, 0x90, 0xBF⟩
  else if n < 0xF4 then .begun ⟨n - 0xF0, 3, 0x80, 0xBF⟩
  else if n == 0xF4 then .begun ⟨4, 3, 0x80, 0x8F⟩
  else .stray

/-- One step of the machine: the parts that this byte ends, `none` for an ill-formed one, and the
character that it leaves unfinished. -/
def step (open? : Option Unfinished) (b : UInt8) : List (Option Char) × Option Unfinished :=
  let begin (ended : List (Option Char)) : List (Option Char) × Option Unfinished :=
    match first b with
    | .whole c => (ended ++ [some c], none)
    | .begun rest => (ended, some rest)
    | .stray => (ended ++ [none], none)
  match open? with
  | none => begin []
  | some u =>
    if u.low ≤ b && b ≤ u.high then
      let bits := u.bits * 64 + (b.toNat - 0x80)
      if u.due ≤ 1 then ([some (Char.ofNat bits)], none)
      else ([], some ⟨bits, u.due - 1, 0x80, 0xBF⟩)
    else begin [none]

def parts (open? : Option Unfinished) : List UInt8 → List (Option Char)
  | [] => match open? with
    | none => []
    | some _ => [none]
  | b :: rest =>
    let (ended, next) := step open? b
    ended ++ parts next rest

/-- The text of the bytes, with U+FFFD for each ill-formed part. -/
def decodeLossy (bytes : List UInt8) : String :=
  String.ofList ((parts none bytes).map (·.getD '\uFFFD'))

def decode? (bytes : List UInt8) : Option String :=
  ((parts none bytes).mapM id).map String.ofList

def encode (s : String) : List UInt8 := s.toUTF8.toList

end ExtensionBuild.Text.Utf8
