/-
  Proofs/Json/Reader.lean --- documents that were printed.

  The builder takes the tokens of a value to that value, wherever in a document it stands, as long
  as there is room for the lists and records inside it (`Reads`).  A text that was printed is
  therefore read as the value that it was printed from (`Json.read?_render`), and a blank text is no
  document.
-/
import VesselWatch.Json.Reader
import VesselWatch.Proofs.Json.Token

set_option autoImplicit false

namespace VesselWatch.Json

/-! ## Rows with commas between them -/

section Rows

variable {α : Type} {frame : List α → Frame} {next : Expect} {stack : List Frame}

/-- Parts that are taken in one by one are taken in with commas between them. -/
theorem foldlM_commaTokens
    (comma : ∀ done, Builder.step ⟨frame done :: stack, .more⟩ .comma =
      some ⟨frame done :: stack, next⟩)
    {rows : List (List Token)} {xs : List α}
    (reads : List.Forall₂ (fun row x => ∀ done,
      row.foldlM Builder.step (⟨frame done :: stack, next⟩ : Builder) =
        some ⟨frame (x :: done) :: stack, .more⟩) rows xs)
    (any : rows ≠ []) (done : List α) :
    (commaTokens rows).foldlM Builder.step (⟨frame done :: stack, next⟩ : Builder) =
      some ⟨frame (xs.reverse ++ done) :: stack, .more⟩ := by
  induction reads generalizing done with
  | nil => exact absurd rfl any
  | cons first rest ih =>
    cases rest with
    | nil => exact first done
    | cons =>
      unfold commaTokens
      rw [List.foldlM_append, first done]
      change List.foldlM Builder.step _ (.comma :: _) = _
      rw [List.foldlM_cons, comma]
      change List.foldlM Builder.step _ _ = _
      rw [ih (by simp)]
      simp

theorem foldlM_of_step_eq {b b' : Builder} {t : Token} {ts : List Token}
    (same : Builder.step b t = Builder.step b' t) :
    (t :: ts).foldlM Builder.step b = (t :: ts).foldlM Builder.step b' := by
  rw [List.foldlM_cons, List.foldlM_cons, same]

end Rows

/-! ## Values -/

mutual

/-- How many lists and records lie inside one another. -/
def depth : Json → Nat
  | .array items => itemsDepth items + 1
  | .object fields => fieldsDepth fields + 1
  | _ => 0

/-- The greatest depth of an item. -/
def itemsDepth : List Json → Nat
  | [] => 0
  | item :: rest => max item.depth (itemsDepth rest)

/-- The greatest depth of a value. -/
def fieldsDepth : List (String × Json) → Nat
  | [] => 0
  | (_, value) :: rest => max value.depth (fieldsDepth rest)

end

/-- Where a value may come, with room for so many lists and records inside one another, the tokens
are taken in as this node. -/
def Reads (depth : Nat) (ts : List Token) (n : Node) : Prop :=
  ∀ stack : List Frame, stack.length + depth ≤ depthLimit →
    ts.foldlM Builder.step (⟨stack, .value⟩ : Builder) = some (Builder.put stack n)

theorem Reads.mono {depth deeper : Nat} (le : depth ≤ deeper) {ts : List Token} {n : Node}
    (reads : Reads depth ts n) : Reads deeper ts n := by
  intro stack room
  apply reads
  omega

/-- The tokens begin as a value does. -/
inductive Begins : List Token → Prop
  | text {s : String} {ts : List Token} : Begins (.text (some s) :: ts)
  | openList {ts : List Token} : Begins (.openList :: ts)
  | openRecord {ts : List Token} : Begins (.openRecord :: ts)

theorem begins_tokens {j : Json} (textual : j.Textual) : Begins j.tokens := by
  cases j with
  | text => exact .text
  | array => exact .openList
  | object => exact .openRecord
  | null | bool | number => exact textual.elim

theorem Begins.append {ts : List Token} (begins : Begins ts) (us : List Token) :
    Begins (ts ++ us) := by
  cases begins with
  | text => exact .text
  | openList => exact .openList
  | openRecord => exact .openRecord

theorem Begins.commaTokens {row : List Token} (begins : Begins row) (rows : List (List Token)) :
    Begins (commaTokens (row :: rows)) := by
  cases rows with
  | nil => exact begins
  | cons => exact begins.append _

theorem exists_commaTokens_cons (t : Token) (ts : List Token) (rows : List (List Token)) :
    ∃ us, Json.commaTokens ((t :: ts) :: rows) = t :: us := by
  cases rows with
  | nil => exact ⟨ts, rfl⟩
  | cons => exact ⟨_, rfl⟩

/-- Where a value or the end of a list may come, a value is taken in as anywhere. -/
theorem Begins.foldlM_firstItem {ts : List Token} (begins : Begins ts) (stack : List Frame) :
    ts.foldlM Builder.step (⟨.list [] :: stack, .firstItem⟩ : Builder) =
      ts.foldlM Builder.step (⟨.list [] :: stack, .value⟩ : Builder) := by
  cases begins with
  | text | openList | openRecord => exact foldlM_of_step_eq rfl

theorem close_list {stack : List Frame} (room : stack.length < depthLimit) (items : List Node) :
    Frame.close stack.length (.list items) = .list items.reverse :=
  if_pos room

theorem close_record {stack : List Frame} (room : stack.length < depthLimit)
    (fields : List (Node × Node)) :
    Frame.close stack.length (.record fields true none) = .record fields.reverse := by
  unfold Frame.close
  simp [room]

/-- What stands behind a row of tokens is taken in where they have led. -/
theorem foldlM_snoc {ts : List Token} {b b' : Builder} (leads : ts.foldlM Builder.step b = some b')
    (t : Token) : (ts ++ [t]).foldlM Builder.step b = Builder.step b' t := by
  rw [List.foldlM_append, leads]
  change (Builder.step b' t).bind some = _
  cases Builder.step b' t <;> rfl

/-- A list is taken in when its items are. -/
theorem reads_list {rows : List (List Token)} {ns : List Node} {depth : Nat}
    (reads : List.Forall₂ (Reads depth) rows ns) (begins : ∀ row ∈ rows, Begins row) :
    Reads (depth + 1) (.openList :: (commaTokens rows ++ [.closeList])) (.list ns) := by
  intro stack room
  have hroom : stack.length < depthLimit := by omega
  change List.foldlM Builder.step (⟨.list [] :: stack, .firstItem⟩ : Builder) _ = _
  cases rows with
  | nil =>
    cases reads
    change some (Builder.put stack (Frame.close stack.length (.list []))) = _
    rw [close_list hroom]
    rfl
  | cons row rows =>
    have hitems : List.Forall₂ (fun row n => ∀ done,
        row.foldlM Builder.step (⟨.list done :: stack, .value⟩ : Builder) =
          some ⟨.list (n :: done) :: stack, .more⟩) (row :: rows) ns := by
      refine reads.imp fun row n h done => h _ ?_
      rw [List.length_cons]
      omega
    have hrows := foldlM_commaTokens (fun _ => rfl) hitems (List.cons_ne_nil _ _) []
    have hbegins := (begins row (List.mem_cons_self ..)).commaTokens rows
    rw [← hbegins.foldlM_firstItem, List.append_nil] at hrows
    rw [foldlM_snoc hrows]
    change some (Builder.put stack (Frame.close stack.length (.list ns.reverse))) = _
    rw [close_list hroom, List.reverse_reverse]

/-- The tokens are a key and those of a value. -/
def ReadsField (depth : Nat) (row : List Token) (field : Node × Node) : Prop :=
  ∃ key ts, row = .text (some key) :: .colon :: ts ∧ field.1 = .text key ∧ Reads depth ts field.2

theorem ReadsField.mono {depth deeper : Nat} (le : depth ≤ deeper) {row : List Token}
    {field : Node × Node} (reads : ReadsField depth row field) : ReadsField deeper row field := by
  obtain ⟨key, ts, hrow, hname, h⟩ := reads
  exact ⟨key, ts, hrow, hname, h.mono le⟩

/-- A field is taken in when its value is. -/
theorem foldlM_field {ts : List Token} {n : Node} {depth : Nat} (reads : Reads depth ts n)
    {stack : List Frame} (room : stack.length + (depth + 1) ≤ depthLimit) (key : String)
    (done : List (Node × Node)) :
    (.text (some key) :: .colon :: ts).foldlM Builder.step
        (⟨.record done true none :: stack, .key⟩ : Builder) =
      some ⟨.record ((.text key, n) :: done) true none :: stack, .more⟩ := by
  change ts.foldlM Builder.step (⟨.record done true (some key) :: stack, .value⟩ : Builder) = _
  rw [reads]
  · rfl
  · rw [List.length_cons]
    omega

/-- A record is taken in when its fields are. -/
theorem reads_record {rows : List (List Token)} {fields : List (Node × Node)} {depth : Nat}
    (reads : List.Forall₂ (ReadsField depth) rows fields) :
    Reads (depth + 1) (.openRecord :: (commaTokens rows ++ [.closeRecord])) (.record fields) := by
  intro stack room
  have hroom : stack.length < depthLimit := by omega
  change List.foldlM Builder.step (⟨.record [] true none :: stack, .firstKey⟩ : Builder) _ = _
  cases rows with
  | nil =>
    cases reads
    change some (Builder.put stack (Frame.close stack.length (.record [] true none))) = _
    rw [close_record hroom]
    rfl
  | cons row rows =>
    have hfields : List.Forall₂ (fun row field => ∀ done,
        row.foldlM Builder.step (⟨.record done true none :: stack, .key⟩ : Builder) =
          some ⟨.record (field :: done) true none :: stack, .more⟩) (row :: rows) fields := by
      refine reads.imp ?_
      rintro _ ⟨name, value⟩ ⟨key, ts, rfl, rfl, h⟩ done
      exact foldlM_field h room key done
    have hrows : (commaTokens (row :: rows)).foldlM Builder.step
          (⟨.record [] true none :: stack, .key⟩ : Builder) =
        some ⟨.record (fields.reverse ++ []) true none :: stack, .more⟩ :=
      foldlM_commaTokens (fun _ => rfl) hfields (List.cons_ne_nil _ _) []
    have hfirst : (commaTokens (row :: rows)).foldlM Builder.step
          (⟨.record [] true none :: stack, .firstKey⟩ : Builder) =
        (commaTokens (row :: rows)).foldlM Builder.step
          (⟨.record [] true none :: stack, .key⟩ : Builder) := by
      cases reads with
      | cons first rest =>
        obtain ⟨key, ts, rfl, -, -⟩ := first
        obtain ⟨us, hus⟩ := exists_commaTokens_cons (.text (some key)) (.colon :: ts) rows
        rw [hus]
        exact foldlM_of_step_eq rfl
    rw [List.append_nil, ← hfirst] at hrows
    rw [foldlM_snoc hrows]
    change some (Builder.put stack
      (Frame.close stack.length (.record fields.reverse true none))) = _
    rw [close_record hroom, List.reverse_reverse]

mutual

/-- The tokens of a value are taken in as the value. -/
theorem reads_tokens : ∀ j : Json, j.Textual → Reads j.depth j.tokens j.toNode
  | .text s, _ => by
    unfold Json.tokens Json.toNode
    exact fun _ _ => rfl
  | .array items, textual => by
    unfold Json.Textual at textual
    unfold Json.tokens Json.toNode Json.depth
    exact reads_list (reads_items items textual) (begins_items items textual)
  | .object fields, textual => by
    unfold Json.Textual at textual
    unfold Json.tokens Json.toNode Json.depth
    exact reads_record (reads_fields fields textual)
  | .null, textual | .bool _, textual | .number _, textual => by
    unfold Json.Textual at textual
    exact textual.elim

theorem reads_items : ∀ items : List Json, TextualItems items →
    List.Forall₂ (Reads (itemsDepth items)) (itemTokens items) (Json.itemsToNode items)
  | [], _ => .nil
  | item :: rest, textual => by
    unfold TextualItems at textual
    have hitem := (reads_tokens item textual.1).mono (Nat.le_max_left _ (itemsDepth rest))
    have hrest := (reads_items rest textual.2).imp fun _ _ h =>
      h.mono (Nat.le_max_right item.depth _)
    exact .cons hitem hrest

theorem reads_fields : ∀ fields : List (String × Json), TextualFields fields →
    List.Forall₂ (ReadsField (fieldsDepth fields)) (fieldTokens fields)
      (Json.fieldsToNode fields)
  | [], _ => .nil
  | (key, value) :: rest, textual => by
    unfold TextualFields at textual
    have hvalue := (reads_tokens value textual.1).mono (Nat.le_max_left _ (fieldsDepth rest))
    have hrest := (reads_fields rest textual.2).imp fun _ _ h =>
      h.mono (Nat.le_max_right value.depth _)
    exact .cons ⟨key, value.tokens, rfl, rfl, hvalue⟩ hrest

theorem begins_items : ∀ items : List Json, TextualItems items →
    ∀ row ∈ itemTokens items, Begins row
  | [], _ => List.forall_mem_nil _
  | item :: rest, textual => by
    unfold TextualItems at textual
    exact List.forall_mem_cons.mpr ⟨begins_tokens textual.1, begins_items rest textual.2⟩

end

/-- A text that was printed is read as the value that it was printed from. -/
theorem read?_render {j : Json} (textual : j.Textual) (shallow : j.depth ≤ depthLimit) :
    Json.read? j.render = some j.toNode := by
  have hread := reads_tokens j textual [] (by simpa using shallow)
  unfold read? Json.render
  rw [String.toList_ofList, tokens?_chars textual]
  change (List.foldlM Builder.step (⟨[], .value⟩ : Builder) j.tokens).bind _ = _
  rw [hread]
  rfl

/-- A blank text is no document. -/
theorem read?_of_blank {s : String} (blank : Text.blank s = true) : Json.read? s = none := by
  unfold read?
  rcases tokens?_of_blank blank with empty | stuck
  · rw [empty]
    rfl
  · rw [stuck]
    rfl

end VesselWatch.Json
