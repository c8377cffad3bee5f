namespace EnumExport

abbrev Ranges := List (Nat × Nat)

def Ranges.holds (ranges : Ranges) (c : Char) : Bool :=
  ranges.any fun (first, last) => first ≤ c.toNat && c.toNat ≤ last

abbrev Runs := List (Nat × Nat × Nat)

def Runs.covers (first last step n : Nat) : Bool :=
  first ≤ n && n ≤ last && (n - first) % step == 0

def Runs.holds (runs : Runs) (c : Char) : Bool :=
  runs.any fun (first, last, step) => Runs.covers first last step c.toNat

end EnumExport
