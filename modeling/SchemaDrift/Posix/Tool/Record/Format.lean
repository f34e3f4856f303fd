import SchemaDrift.Posix.Tool.Record.State

namespace SchemaDrift.Record

/-- A text filled up to a width with blanks, or with zeros behind its sign. -/
def padded (flags : Text) (width : Nat) (zeros : Bool) (sign t : Text) : Text :=
  let gap := width - sign.length - t.length
  if flags.contains '-' then sign ++ t ++ List.replicate gap ' '
  else if zeros ∧ flags.contains '0' then sign ++ List.replicate gap '0' ++ t
  else List.replicate gap ' ' ++ sign ++ t

/-- A value written in the way of a letter. -/
def converted (plain : Fraction → Text) (flags : Text) (width : Nat) (places : Option Nat) (letter : Char) (v : Value) : Text :=
  let signOf (isNegative : Bool) : Text :=
    if isNegative then ['-'] else if flags.contains '+' then ['+'] else if flags.contains ' ' then [' '] else []
  let whole (base n : Nat) : Text :=
    let ds := Nat.toDigits base n
    List.replicate (places.getD 0 - ds.length) '0' ++ ds
  let x := v.toNumber
  let n := x.truncated
  let size := places.getD 6
  match letter with
  | 's' =>
    let t := v.toText plain
    padded flags width false [] (t.take (places.getD t.length))
  | 'c' =>
    padded flags width false [] (match v with
      | .number x => [Char.ofNat (x.truncated.toNat % 256)]
      | v => (v.toText plain).take 1)
  | 'd' | 'i' => padded flags width places.isNone (signOf (n < 0)) (whole 10 n.natAbs)
  | 'o' => padded flags width places.isNone [] (whole 8 (n % 2 ^ 64).toNat)
  | 'x' => padded flags width places.isNone [] (whole 16 (n % 2 ^ 64).toNat)
  | 'X' => padded flags width places.isNone [] ((whole 16 (n % 2 ^ 64).toNat).map Char.toUpper)
  | 'u' => padded flags width places.isNone [] (whole 10 (n % 2 ^ 64).toNat)
  | 'f' | 'F' => padded flags width true (signOf x.negative) (x.fixed size)
  | 'e' => padded flags width true (signOf x.negative) (x.scientific size)
  | 'E' => padded flags width true (signOf x.negative) ((x.scientific size).map Char.toUpper)
  | 'G' => padded flags width true (signOf x.negative) ((x.general size).map Char.toUpper)
  | _ => padded flags width true (signOf x.negative) (x.general size)

/-- Values written in the places of a format, or nothing if there are too few; `fuel` exceeds the length of
the format. -/
def formatted? (plain : Fraction → Text) (fuel : Nat) (format : Text) (vs : List Value) : Option Text :=
  match fuel with
  | 0 => some []
  | fuel + 1 =>
    match format with
    | [] => some []
    | '%' :: '%' :: r => (formatted? plain fuel r vs).map ('%' :: ·)
    | '%' :: r =>
      let size (t : Text) (vs : List Value) : Option Nat × Text × List Value :=
        match t with
        | '*' :: t => (some ((vs.headD .nothing).toNumber.truncated.toNat), t, vs.tail)
        | t =>
          let ds := t.takeWhile Char.isDigit
          (if ds = [] then none else Tool.natural? ds, t.drop ds.length, vs)
      let flags := r.takeWhile ['-', '+', ' ', '#', '0'].contains
      let (width, s, vs) := size (r.drop flags.length) vs
      let (places, s, vs) : Option Nat × Text × List Value := match s with
        | '.' :: s =>
          let (n, s, vs) := size s vs
          (some (n.getD 0), s, vs)
        | s => (none, s, vs)
      match s with
      | letter :: s =>
        if "sciduoxXfFeEgG".toList.contains letter then
          match vs with
          | v :: vs =>
            (formatted? plain fuel s vs).map (converted plain flags (width.getD 0) places letter v ++ ·)
          | [] => none
        else (formatted? plain fuel s vs).map ('%' :: r.take (r.length - s.length) ++ ·)
      | [] => some ('%' :: r)
    | c :: r => (formatted? plain fuel r vs).map (c :: ·)

end SchemaDrift.Record
