import SpoilerMarkup.Text.Entity
import SpoilerMarkup.Toml.Value

/-!
Values of TOML that are single words: truth values, numbers, dates and times. Main
definition: `Scalar.ofWord?`.
-/
namespace SpoilerMarkup.Toml.Scalar

/-- Digits that single underscores may separate. The digits are returned without these. -/
def digits? (isDigit : Char → Bool) (cs : List Char) : Option (List Char) :=
  let groups := cs.splitOn '_'
  if groups.all fun group => !group.isEmpty && group.all isDigit then some groups.flatten else none

def decimal? (cs : List Char) : Option (List Char) :=
  match digits? Char.isDigit cs with
  | some ('0' :: _ :: _) => none
  | digits => digits

def splitSign : List Char → Bool × List Char
  | '+' :: rest => (false, rest)
  | '-' :: rest => (true, rest)
  | cs => (false, cs)

/-- Integers are read as far as 128 bits hold them. -/
def isInRange (n : Int) : Bool :=
  -Int.pow 2 127 ≤ n && n < Int.pow 2 128

def integer? (cs : List Char) : Option Int :=
  let based (isDigit : Char → Bool) (base : Nat) (cs : List Char) : Option Int :=
    (digits? isDigit cs).map fun digits => (Text.Entity.number base digits : Int)
  let value := match cs with
    | '0' :: 'x' :: rest => based Text.Entity.isHexDigit 16 rest
    | '0' :: 'o' :: rest => based (fun c => '0' ≤ c && c ≤ '7') 8 rest
    | '0' :: 'b' :: rest => based (fun c => c = '0' || c = '1') 2 rest
    | _ =>
      let (negative, rest) := splitSign cs
      (decimal? rest).map fun digits =>
        let n : Int := Text.Entity.number 10 digits
        if negative then -n else n
  value.filter isInRange

/-- The least number that is rounded to infinity in 64 bits: half a step above the greatest
float. -/
def floatLimit : Nat :=
  Nat.pow 2 1024 - Nat.pow 2 970

/-- Whether `n` times a power of ten is below the limit. The number of digits tells unless it is
309, which is that of the limit. -/
def isFinite (n : Nat) (exponent : Int) : Bool :=
  let size := (Nat.toDigits 10 n).length + exponent
  n = 0 || size < 309 ||
    size = 309 && n * Nat.pow 10 exponent.toNat < floatLimit * Nat.pow 10 (-exponent).toNat

def exponent? (cs : List Char) : Option Int :=
  match cs with
  | [] => some 0
  | _ :: rest =>
    let (negative, digits) := splitSign rest
    (digits? Char.isDigit digits).map fun digits =>
      let n : Int := Text.Entity.number 10 digits
      if negative then -n else n

def fraction? (cs : List Char) : Option (List Char) :=
  match cs with
  | [] => some []
  | _ :: digits => digits? Char.isDigit digits

/-- Whether a word is a float: an integer with a fraction, an exponent or both, or one of the
words for infinity and for what is no number. -/
def isFloat (cs : List Char) : Bool :=
  let (_, rest) := splitSign cs
  if rest = "inf".toList || rest = "nan".toList then true
  else
    let mantissa := rest.takeWhile fun c => c ≠ 'e' && c ≠ 'E'
    let whole := mantissa.takeWhile (· ≠ '.')
    match decimal? whole, fraction? (mantissa.drop whole.length),
      exponent? (rest.drop mantissa.length) with
    | some digits, some fraction, some exponent =>
      whole.length < rest.length &&
        isFinite (Text.Entity.number 10 (digits ++ fraction)) (exponent - fraction.length)
    | _, _, _ => false

def fixed? (width : Nat) (cs : List Char) : Option Nat :=
  if cs.length = width && cs.all Char.isDigit then some (Text.Entity.number 10 cs) else none

def daysInMonth (year month : Nat) : Nat :=
  if month = 2 then
    if year % 4 = 0 && (year % 100 ≠ 0 || year % 400 = 0) then 29 else 28
  else if month = 4 || month = 6 || month = 9 || month = 11 then 30
  else 31

/-- `1979-05-27`. -/
def isDate (cs : List Char) : Bool :=
  match (cs.splitOn '-') with
  | [year, month, day] =>
    match fixed? 4 year, fixed? 2 month, fixed? 2 day with
    | some year, some month, some day =>
      1 ≤ month && month ≤ 12 && 1 ≤ day && day ≤ daysInMonth year month
    | _, _, _ => false
  | _ => false

def isHourAndMinute (hour minute : List Char) : Bool :=
  (fixed? 2 hour).any (· < 24) && (fixed? 2 minute).any (· < 60)

/-- `07:32`, `07:32:00` or `07:32:00.5`. -/
def isTime (cs : List Char) : Bool :=
  match (cs.splitOn ':') with
  | [hour, minute] => isHourAndMinute hour minute
  | [hour, minute, second] =>
    let whole := second.takeWhile (· ≠ '.')
    let fraction := second.drop whole.length
    isHourAndMinute hour minute && (fixed? 2 whole).any (· ≤ 60) &&
      (fraction.isEmpty || !fraction.tail.isEmpty && fraction.tail.all Char.isDigit)
  | _ => false

/-- A time that may have an offset behind it: `Z`, or hours and minutes with a sign. -/
def isTimeWithOffset (cs : List Char) : Bool :=
  let time := cs.takeWhile fun c => c ≠ 'Z' && c ≠ 'z' && c ≠ '+' && c ≠ '-'
  isTime time &&
    match cs.drop time.length with
    | [] => true
    | sign :: offset =>
      if sign = 'Z' || sign = 'z' then offset.isEmpty
      else
        match offset.splitOn ':' with
        | [hour, minute] => isHourAndMinute hour minute
        | _ => false

def isDatetime (cs : List Char) : Bool :=
  let date := cs.take 10
  match cs.drop 10 with
  | [] => isDate date || isTime cs
  | c :: time =>
    isDate date && (c = 'T' || c = 't' || c = ' ') && isTimeWithOffset time || isTime cs

def isWordPart (c : Char) : Bool :=
  c.isAlphanum || c = '+' || c = '-' || c = '_' || c = '.' || c = ':'

/-- The word at the front, and what follows it. A single space may stand between a date and a
time. -/
def readWord (cs : List Char) : List Char × List Char :=
  let word := cs.takeWhile isWordPart
  match cs.drop word.length with
  | ' ' :: c :: rest =>
    if isDate word && c.isDigit then
      let time := (c :: rest).takeWhile isWordPart
      (word ++ ' ' :: time, (c :: rest).drop time.length)
    else (word, ' ' :: c :: rest)
  | rest => (word, rest)

def ofWord? (word : List Char) : Option Value :=
  if word = "true".toList then some (.boolean true)
  else if word = "false".toList then some (.boolean false)
  else
    match integer? word with
    | some n => some (.integer n)
    | none =>
      if isFloat word then some (.float (String.ofList word))
      else if isDatetime word then some (.datetime (String.ofList word))
      else none

end SpoilerMarkup.Toml.Scalar
