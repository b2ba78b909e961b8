/-! The first line of an executable text. Behind a number sign and an exclamation mark it names the
program that reads the text, and perhaps one argument for that program; both are bytes, which need
not be text. Only the first bytes of a file are looked at, with zeros behind a short one; a line
that ends within them is complete, and otherwise at least the name must be. -/
namespace ExtensionBuild

structure Interpreter where
  program : List UInt8
  argument : Option (List UInt8)
deriving DecidableEq, Repr

namespace Interpreter

def window : Nat := 256

def isGap (b : UInt8) : Bool := b == 0x20 || b == 0x09

def trimGaps (text : List UInt8) : List UInt8 := (text.reverse.dropWhile isGap).reverse

/-- The program and its argument in a text up to its first zero. Gaps right before that zero leave
an empty argument. -/
def ofText (text : List UInt8) : Interpreter :=
  let front := text.takeWhile (· != 0)
  let named := front.dropWhile isGap
  let behind := named.dropWhile (! isGap ·)
  let rest := behind.dropWhile isGap
  let argued := ! rest.isEmpty || (! behind.isEmpty && front.length < text.length)
  { program := named.takeWhile (! isGap ·)
    argument := if argued then some rest else none }

/-- What a line says that ends within the bytes looked at; it must name a program. -/
def ofLine (line : List UInt8) : Option Interpreter :=
  let text := trimGaps line
  if text.isEmpty then none else some (ofText text)

/-- What a line says that does not end there; the name of the program must. -/
def ofOpenLine (body : List UInt8) : Option Interpreter :=
  if (body.dropWhile isGap).any fun b => isGap b || b == 0 then ofLine body.dropLast else none

/-- The interpreter of a file, if its first line is of this kind and complete enough. -/
def ofContent? (content : List UInt8) : Option Interpreter :=
  match (content ++ List.replicate window 0).take window with
  | 0x23 :: 0x21 :: body =>
    let line := body.takeWhile fun b => b != 0x0A && b != 0
    match body.drop line.length with
    | 0x0A :: _ => ofLine line
    | _ => ofOpenLine body
  | _ => none

end Interpreter
end ExtensionBuild
