namespace GodotAtlas

def total : List Nat → Nat
  | [] => 0
  | n :: ns => n + total ns

@[simp]
theorem total_nil : total [] = 0 :=
  rfl

@[simp]
theorem total_cons {n : Nat} {ns : List Nat} : total (n :: ns) = n + total ns :=
  rfl

end GodotAtlas
