import Mathlib.Data.List.Infix

namespace AcpTask.Library

/-! `text LIKE pattern` of SQL, with the backslash as its escape. -/

inductive LikeToken where
  | sequence
  | single
  | literal (character : Char)

namespace LikeToken

def special : List Char := ['\\', '%', '_']

def read : List Char → List LikeToken
  | [] => []
  | '\\' :: character :: rest => .literal character :: read rest
  | '%' :: rest => .sequence :: read rest
  | '_' :: rest => .single :: read rest
  | character :: rest => .literal character :: read rest

def accepts : List LikeToken → List Char → Bool
  | [], text => text.isEmpty
  | .sequence :: rest, text => text.tails.any (accepts rest)
  | .single :: _, [] => false
  | .single :: rest, _ :: text => accepts rest text
  | .literal _ :: _, [] => false
  | .literal expected :: rest, character :: text =>
      character == expected && accepts rest text

theorem read_cons {character : Char} (plain : character ∉ special)
    (rest : List Char) :
    read (character :: rest) = .literal character :: read rest := by
  simp only [special, List.mem_cons, List.not_mem_nil, or_false,
    not_or] at plain
  rw [read]
  · exact fun _ _ same _ => absurd same plain.1
  · exact plain.2.1
  · exact plain.2.2

theorem read_append {text : List Char}
    (plain : ∀ character ∈ text, character ∉ special) (rest : List Char) :
    read (text ++ rest) = text.map .literal ++ read rest := by
  induction text with
  | nil => rfl
  | cons character _ induction =>
      rw [List.cons_append, read_cons (plain character List.mem_cons_self),
        induction fun other member => plain other (.tail _ member)]
      rfl

theorem accepts_literals (text : List Char) (tokens : List LikeToken)
    (whole : List Char) :
    accepts (text.map .literal ++ tokens) whole = true ↔
      ∃ rest, whole = text ++ rest ∧ accepts tokens rest = true := by
  induction text generalizing whole with
  | nil => simp
  | cons _ _ induction =>
      cases whole with
      | nil => simp [accepts]
      | cons =>
          rw [List.map_cons, List.cons_append, accepts, Bool.and_eq_true,
            beq_iff_eq, induction]
          constructor
          · rintro ⟨rfl, rest, rfl, accepted⟩
            exact ⟨rest, rfl, accepted⟩
          · rintro ⟨rest, same, accepted⟩
            obtain ⟨rfl, rfl⟩ := List.cons_eq_cons.mp same
            exact ⟨rfl, rest, rfl, accepted⟩

theorem accepts_sequence (text : List Char) :
    accepts [.sequence] text = true := by
  rw [accepts, List.any_eq_true]
  exact ⟨[], (List.mem_tails _ _).mpr List.nil_suffix, rfl⟩

end LikeToken

def like (text pattern : List Char) : Bool :=
  LikeToken.accepts (LikeToken.read pattern) text

theorem like_prefix_iff {plain : List Char}
    (literal : ∀ character ∈ plain, character ∉ LikeToken.special)
    (text : List Char) :
    like text (plain ++ ['%']) = true ↔ plain <+: text := by
  rw [like, LikeToken.read_append literal, LikeToken.accepts_literals]
  constructor
  · rintro ⟨rest, rfl, _⟩
    exact List.prefix_append plain rest
  · rintro ⟨rest, rfl⟩
    exact ⟨rest, rfl, LikeToken.accepts_sequence rest⟩

end AcpTask.Library
