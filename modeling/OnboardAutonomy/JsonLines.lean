import OnboardAutonomy.JsonText

namespace JsonText
set_option autoImplicit true

/-- Every character a value is written with satisfies a property, its numbers, escaped strings and
names at least. -/
def Json.Written (p : Char → Prop) (escape : Char → List Char) (j : Json) : Prop :=
  j.All (fun text => ∀ c ∈ text, p c) (fun s => ∀ c ∈ s.flatMap escape, p c)
    (fun name => ∀ c ∈ name.toList, p c)

theorem written_array : (Json.array js).Written p escape ↔ ∀ j ∈ js, j.Written p escape :=
  allItems_iff

theorem written_object : (Json.object ms).Written p escape ↔
    ∀ m ∈ ms, (∀ c ∈ m.1.toList, p c) ∧ m.2.Written p escape := allMembers_iff

section
variable {p : Char → Prop} {escape : Char → List Char}

end

mutual

theorem render_append (escape : Char → List Char) : ∀ (j : Json) (rest more : List Char),
    render escape j (rest ++ more) = render escape j rest ++ more
  | .null, _, _ => rfl
  | .bool true, _, _ => rfl
  | .bool false, _, _ => rfl
  | .number text, rest, more => (List.append_assoc text rest more).symm
  | .string s, rest, more => by
    simp only [render, List.cons_append, List.append_assoc]
  | .array js, rest, more => by
    rw [render, render, ← List.cons_append, renderItems_append escape js, List.cons_append]
  | .object ms, rest, more => by
    rw [render, render, ← List.cons_append, renderMembers_more escape ms, List.cons_append]

theorem renderItems_append (escape : Char → List Char) :
    ∀ (js : List Json) (rest more : List Char),
      renderItems escape js (rest ++ more) = renderItems escape js rest ++ more
  | [], _, _ => rfl
  | [j], rest, more => render_append escape j rest more
  | j :: k :: js, rest, more => by
    rw [renderItems, renderItems, renderItems_append escape (k :: js), ← List.cons_append,
      render_append escape j]

theorem renderMembers_more (escape : Char → List Char) :
    ∀ (ms : List (String × Json)) (rest more : List Char),
      renderMembers escape ms (rest ++ more) = renderMembers escape ms rest ++ more
  | [], _, _ => rfl
  | [(name, j)], rest, more => by
    simp only [renderMembers, render_append escape j, List.cons_append, List.append_assoc]
  | (name, j) :: m :: ms, rest, more => by
    have hcomma : renderMembers escape ((name, j) :: m :: ms) (rest ++ more) =
        '"' :: (name.toList ++ '"' :: ':' ::
          render escape j (',' :: renderMembers escape (m :: ms) rest ++ more)) := by
      rw [renderMembers, renderMembers_more escape (m :: ms), List.cons_append]
    rw [hcomma, render_append escape j]
    simp only [renderMembers, List.cons_append, List.append_assoc]

end

/-- A rendered value on a line of its own reads as on its own. -/
theorem document_line {escape : Char → List Char} (hescape : ∀ c, Kept escape c ∨ Raw escape c)
    (hsound : j.Sound) :
    Document (render escape j [] ++ ['\n']) j' ↔ Document (render escape j []) j' := by
  have hread := value_render hescape j hsound
  have hends : Ends ['\n'] := by
    intro c hc
    cases hc
    rfl
  rw [document_render hescape hsound, ← render_append, List.nil_append]
  constructor
  · rintro ⟨t₁, t₂, hws, hvalue, -⟩
    cases (ws_render hsound).mp hws
    obtain ⟨hclean, rfl, -⟩ := (hread _ _ _ hends).mp hvalue
    exact ⟨hclean, rfl⟩
  · rintro ⟨hclean, rfl⟩
    exact ⟨_, ['\n'], .nil, (hread _ _ _ hends).mpr ⟨hclean, rfl, rfl⟩, .cons rfl .nil⟩

end JsonText
