namespace MarketWire.Text

def pieces (separates : Char → Bool) : List Char → List (List Char)
  | [] => [[]]
  | c :: rest =>
      if separates c then [] :: pieces separates rest
      else
        match pieces separates rest with
        | [] => [[c]]
        | s :: more => (c :: s) :: more

def join (separator : Char) : List (List Char) → List Char
  | [] => []
  | [s] => s
  | s :: more => s ++ separator :: join separator more

theorem pieces_ne_nil (separates : Char → Bool) (cs : List Char) : pieces separates cs ≠ [] := by
  cases cs with
  | nil => simp [pieces]
  | cons c rest =>
      unfold pieces
      split
      · simp
      · split <;> simp

theorem join_pieces (separator : Char) (cs : List Char) :
    join separator (pieces (· == separator) cs) = cs := by
  induction cs with
  | nil => rfl
  | cons c rest ih =>
      have hne := pieces_ne_nil (· == separator) rest
      unfold pieces
      split
      · next h =>
          have hc : c = separator := by simpa using h
          cases hp : pieces (· == separator) rest with
          | nil => exact absurd hp hne
          | cons s more => rw [hp] at ih; simp [join, ih, hc]
      · cases hp : pieces (· == separator) rest with
        | nil => exact absurd hp hne
        | cons s more =>
            rw [hp] at ih
            cases more with
            | nil => simpa [join] using ih
            | cons t ts => simpa [join] using ih

end MarketWire.Text
