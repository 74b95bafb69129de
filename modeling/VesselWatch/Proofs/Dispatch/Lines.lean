/-
  Proofs/Dispatch/Lines.lean --- what a sink of lines has written.

  A sink of lines has one line for each alert that it took, in the order in which they were sent,
  and none for the others (`Sink.written_after_lines`).  No line holds a line feed before its end,
  so cutting the output into lines and reading each of them gives the alerts back
  (`Sink.lines_read_back`).
-/
import VesselWatch.Dispatch.Sink
import VesselWatch.Text.Lines
import VesselWatch.Proofs.Alert
import VesselWatch.Proofs.Dispatch.Dispatcher

set_option autoImplicit false

namespace VesselWatch

/-! ## Cutting joined lines -/

namespace Text

/-- The characters of one line, whose end can be put behind them and cut off again. -/
structure IsLine (row : List Char) : Prop where
  oneLine : '\n' ∉ row
  noReturn : row.getLast? ≠ some '\r'

theorem closeLine_reverse {row : List Char} (noReturn : row.getLast? ≠ some '\r') :
    closeLine row.reverse = row := by
  unfold closeLine
  split
  · next same =>
    rw [← List.head?_reverse, same] at noReturn
    exact absurd rfl noReturn
  · exact List.reverse_reverse row

/-- Up to the first line feed everything is one line. -/
theorem linesFrom_append {row : List Char} (oneLine : '\n' ∉ row) (back rest : List Char) :
    linesFrom back (row ++ '\n' :: rest) =
      closeLine (row.reverse ++ back) :: linesFrom [] rest := by
  induction row generalizing back with
  | nil => rfl
  | cons c row ih =>
    obtain ⟨hc, hrow⟩ := List.ne_and_not_mem_of_not_mem_cons oneLine
    have hne : (c == '\n') = false := beq_false_of_ne hc.symm
    rw [List.cons_append, linesFrom, hne, List.reverse_cons, List.append_assoc]
    exact ih hrow (c :: back)

/-- Lines that are joined with their ends are the lines of what they make. -/
theorem lines_join {rows : List String} (lines : ∀ row ∈ rows, IsLine row.toList) :
    Text.lines (String.join (rows.map (· ++ "\n"))) = rows := by
  unfold Text.lines
  rw [String.toList_join]
  induction rows with
  | nil => rfl
  | cons row rows ih =>
    obtain ⟨hrow, hrows⟩ := List.forall_mem_cons.mp lines
    have hcut := linesFrom_append hrow.oneLine [] ((rows.map (· ++ "\n")).flatMap String.toList)
    rw [List.append_nil, closeLine_reverse hrow.noReturn] at hcut
    have hend : (row ++ "\n").toList = row.toList ++ ['\n'] := String.toList_append
    rw [List.map_cons, List.flatMap_cons, hend, List.append_assoc, List.singleton_append, hcut,
      List.map_cons, String.ofList_toList, ih hrows]

end Text

theorem Alert.isLine_render (a : Alert) : Text.IsLine a.toJson.render.toList := by
  obtain ⟨body, hbody, hclean⟩ := a.exists_render
  refine ⟨hclean, ?_⟩
  rw [hbody, List.getLast?_concat]
  decide

/-- Alerts are read back from their texts. -/
theorem Alert.map_ofLine?_render {alerts : List Alert} (valid : ∀ a ∈ alerts, a.timestamp.Valid) :
    (alerts.map fun a => a.toJson.render).map Alert.ofLine? = alerts.map some := by
  rw [List.map_map]
  apply List.map_congr_left
  intro a mem
  rw [Function.comp_apply, Alert.ofLine?_render (valid a mem)]

/-- Cut into lines, the lines of alerts are their texts. -/
theorem Sink.lines_join_lineOf (alerts : List Alert) :
    Text.lines (String.join (alerts.map Sink.lineOf)) = alerts.map fun a => a.toJson.render := by
  have hrows : ∀ row ∈ alerts.map (fun a => a.toJson.render), Text.IsLine row.toList := by
    intro row mem
    obtain ⟨a, -, rfl⟩ := List.mem_map.mp mem
    exact a.isLine_render
  have hjoin := Text.lines_join hrows
  rw [List.map_map] at hjoin
  exact hjoin

/-! ## Sending alerts to a sink of lines -/

namespace Sink

/-- The alerts whose sending was answered without an error, in the order of sending. -/
def delivered (s : Sink) : List Alert → List Alert
  | [] => []
  | a :: rest =>
    match s.send a with
    | (none, next) => a :: next.delivered rest
    | (some _, next) => next.delivered rest

section Delivered

variable {s : Sink} {a : Alert}

theorem delivered_cons_of_none (taken : (s.send a).1 = none) (rest : List Alert) :
    s.delivered (a :: rest) = a :: (s.send a).2.delivered rest := by
  have hsend : s.send a = (none, (s.send a).2) := Prod.ext taken rfl
  rw [delivered, hsend]

theorem delivered_cons_of_some {e : DeliveryError} (refused : (s.send a).1 = some e)
    (rest : List Alert) : s.delivered (a :: rest) = (s.send a).2.delivered rest := by
  have hsend : s.send a = (some e, (s.send a).2) := Prod.ext refused rfl
  rw [delivered, hsend]

variable {writer : Writer}

theorem send_lines (kind : s.kind = .lines writer) (a : Alert) :
    s.send a = match writer.refuse s.handed.length s.written (lineOf a) with
      | some message => (some (.write message), { s with handed := a :: s.handed })
      | none => (none, { s with handed := a :: s.handed, written := s.written ++ lineOf a }) := by
  obtain ⟨name, k, handed, written⟩ := s
  cases kind
  rfl

theorem written_of_none (kind : s.kind = .lines writer) (taken : (s.send a).1 = none) :
    (s.send a).2.written = s.written ++ lineOf a := by
  rw [send_lines kind] at taken ⊢
  split at taken
  · cases taken
  · rfl

/-- Nothing is written of a line that was refused. -/
theorem written_of_some (kind : s.kind = .lines writer) {e : DeliveryError}
    (refused : (s.send a).1 = some e) : (s.send a).2.written = s.written := by
  rw [send_lines kind] at refused ⊢
  split at refused
  · rfl
  · cases refused

/-- A sink of lines holds a line for each alert that it took. -/
theorem written_after_lines (kind : s.kind = .lines writer) (alerts : List Alert) :
    (s.after alerts).written = s.written ++ String.join ((s.delivered alerts).map lineOf) := by
  induction alerts generalizing s with
  | nil => exact String.append_empty.symm
  | cons a rest ih =>
    have hrest := ih ((send_kind a s).trans kind)
    change ((s.send a).2.after rest).written = _
    cases answer : (s.send a).1 with
    | none =>
      rw [hrest, delivered_cons_of_none answer, written_of_none kind answer, List.map_cons,
        String.join_cons, String.append_assoc]
    | some e => rw [hrest, delivered_cons_of_some answer, written_of_some kind answer]

/-- A writer that takes everything makes every sending succeed. -/
theorem delivered_unlimited (kind : s.kind = .lines .unlimited) (alerts : List Alert) :
    s.delivered alerts = alerts := by
  induction alerts generalizing s with
  | nil => rfl
  | cons a rest ih =>
    have taken : (s.send a).1 = none := by
      rw [send_lines kind]
      rfl
    rw [delivered_cons_of_none taken, ih ((send_kind a s).trans kind)]

end Delivered

/-- The output of a sink of lines, whatever its writer refuses and when: it is the lines of the
alerts that were answered without an error, in the order of sending; each of them ends where its
only line feed is; cut into lines it has the texts of these alerts, and reading these gives the
alerts back if their times are such as can be written. -/
theorem lines_read_back (name : String) (writer : Writer) (alerts : List Alert) :
    let opened := fresh name (.lines writer)
    let sent := opened.delivered alerts
    let output := (opened.after alerts).written
    output = String.join (sent.map lineOf) ∧
    (∀ a ∈ sent, ∃ body, (lineOf a).toList = body ++ ['\n'] ∧ '\n' ∉ body) ∧
    Text.lines output = sent.map (fun a => a.toJson.render) ∧
    ((∀ a ∈ sent, a.timestamp.Valid) → (Text.lines output).map Alert.ofLine? = sent.map some) := by
  intro opened sent output
  have houtput : output = String.join (sent.map lineOf) := by
    have hwritten := written_after_lines (s := opened) rfl alerts
    exact hwritten.trans String.empty_append
  have hlines : Text.lines output = sent.map (fun a => a.toJson.render) := by
    rw [houtput]
    exact lines_join_lineOf sent
  refine ⟨houtput, ?_, hlines, ?_⟩
  · intro a _
    exact ⟨a.toJson.render.toList, String.toList_append, a.isLine_render.oneLine⟩
  · intro valid
    rw [hlines]
    exact Alert.map_ofLine?_render valid

/-- A writer that refuses the second line only: the first alert, with a line feed in a text, and the
third, raised in a leap second, are read back. -/
theorem lines_read_back_around_refusal :
    let writer : Writer := ⟨fun attempts _ _ => if attempts == 1 then some "disk full" else none⟩
    let opened := fresh "out" (.lines writer)
    let first : Alert := { (default : Alert) with ruleId := "a\nb", notify := ["x", "\r\n"] }
    let third : Alert := { (default : Alert) with timestamp := ⟨17166, 86399, 1500000000⟩ }
    opened.delivered [first, default, third] = [first, third] ∧
    (Text.lines (opened.after [first, default, third]).written).map Alert.ofLine? =
      [some first, some third] := by
  intro writer opened first third
  have hsent : opened.delivered [first, default, third] = [first, third] := rfl
  have hfirst : first.timestamp.Valid :=
    ⟨by decide, by decide, by decide, by decide, by decide⟩
  have hthird : third.timestamp.Valid :=
    ⟨by decide, by decide, by decide, by decide, by decide⟩
  have hread := (lines_read_back "out" writer [first, default, third]).2.2.2
  change (∀ a ∈ opened.delivered [first, default, third], a.timestamp.Valid) →
    _ = (opened.delivered [first, default, third]).map some at hread
  rw [hsent] at hread
  exact ⟨hsent, hread (List.forall_mem_cons.mpr ⟨hfirst, List.forall_mem_singleton.mpr hthird⟩)⟩

end Sink

end VesselWatch
