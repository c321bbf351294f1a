set_option autoImplicit false

/-!
# Names with numbers in them

Names of versions and of files are compared in such a way that numbers in them count as numbers.
What stands between numbers is compared by characters: a tilde comes first, even in front of the end,
then letters, then all other characters. Endings of files are left out at first.

## Main definitions

* `AslBuild.Text.Version.compareParts` — the order of two names, all of them counted.
* `AslBuild.Text.Version.compareNames` — the order of two names of files.
-/

namespace AslBuild.Text.Version

/-- The rank of the character at the start of some, where no number starts. -/
def rank : List Char → Int
  | [] => -1
  | c :: _ =>
    if c.isDigit then 0 else if c.isAlpha then c.toNat else if c = '~' then -2 else c.toNat + 256

/-- Whether something else than a number stands at the start. -/
def startsOutside : List Char → Bool
  | [] => false
  | c :: _ => !c.isDigit

/-- The order of what stands in front of the first numbers, and what follows if that is the same. -/
def compareOutside : List Char → List Char → Int × List Char × List Char
  | as, bs =>
    if startsOutside as || startsOutside bs then
      if rank as ≠ rank bs then (rank as - rank bs, as, bs)
      else match as, bs with
        | _ :: as, _ :: bs => compareOutside as bs
        | as, bs => (0, as, bs)
    else (0, as, bs)
termination_by as => as.length

/-- The order of the numbers at the start, and what follows them. -/
def compareNumbers (as bs : List Char) : Int × List Char × List Char :=
  let as := as.dropWhile (· == '0')
  let bs := bs.dropWhile (· == '0')
  let xs := as.takeWhile Char.isDigit
  let ys := bs.takeWhile Char.isDigit
  let order : Int :=
    if xs.length ≠ ys.length then (xs.length : Int) - ys.length
    else match (xs.zip ys).find? fun p => p.1 != p.2 with
      | some (x, y) => (x.toNat : Int) - y.toNat
      | none => 0
  (order, as.drop xs.length, bs.drop ys.length)

/-- The order of two names, of which at most so many parts are compared. -/
def compareUpTo : Nat → List Char → List Char → Int
  | 0, _, _ => 0
  | n + 1, as, bs =>
    if as.isEmpty && bs.isEmpty then 0
    else
      let (order, as, bs) := compareOutside as bs
      if order ≠ 0 then order
      else
        let (order, as, bs) := compareNumbers as bs
        if order ≠ 0 then order else compareUpTo n as bs

/-- The order of two names, all of them counted. -/
def compareParts (as bs : List Char) : Int := compareUpTo (as.length + bs.length + 1) as bs

/-- The endings at the start of some characters: each is a dot, a letter, and more letters and
digits. At most so many are read. -/
def endings : Nat → List Char → List Char
  | 0, cs => cs
  | n + 1, '.' :: c :: cs =>
    if c.isAlpha || c == '~' then
      endings n (cs.dropWhile fun c => c.isAlphanum || c == '~')
    else '.' :: c :: cs
  | _, cs => cs

/-- The length of a name without its endings. -/
def lengthWithoutEndings : List Char → Nat
  | [] => 0
  | _ :: cs => if (endings cs.length cs).isEmpty then 1 else lengthWithoutEndings cs + 1

/-- A name without its endings. -/
def withoutEndings (cs : List Char) : List Char := cs.take (lengthWithoutEndings cs)

/-- The order of two names of files. -/
def compareNames (as bs : List Char) : Int :=
  match as, bs with
  | [], [] => 0
  | [], _ => -1
  | _, [] => 1
  | '.' :: as', '.' :: bs' =>
    if as' = [] then (if bs' = [] then 0 else -1)
    else if bs' = [] then 1
    else if as' = ['.'] then (if bs' = ['.'] then 0 else -1)
    else if bs' = ['.'] then 1
    else inFull as bs
  | '.' :: _, _ => -1
  | _, '.' :: _ => 1
  | as, bs => inFull as bs
where
  /-- The order of two names, without their endings at first. -/
  inFull (as bs : List Char) : Int :=
    let order := compareParts (withoutEndings as) (withoutEndings bs)
    if order ≠ 0 then order else compareParts as bs

end AslBuild.Text.Version
