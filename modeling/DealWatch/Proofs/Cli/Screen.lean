import DealWatch.Cli.Screen
import DealWatch.Proofs.Outside.Act
import DealWatch.Proofs.Text.Rendering

/-!
# Running commands

What each way of making a step of a command does to its state and to what is outside.

* `CommandAct.runWith_bind` says how one step goes on after another;
* `CommandAct.runWith_say`, `CommandAct.runWith_showTable` say what appears on the screen;
* `rendered_escape` says how a text appears whose markup is taken away.

A step has three ways to end: with a result, with a status that ends the command, or with a failure.
-/

namespace DealWatch

/-- A state of a command with more on the screen. -/
def Session.show (s : Session) (more : List Printed) : Session :=
  { s with printed := s.printed ++ more }

theorem Session.show_show (s : Session) (ps qs : List Printed) :
    (s.show ps).show qs = s.show (ps ++ qs) := by
  simp only [Session.show, List.append_assoc]

namespace CommandAct

variable {α β : Type}

/-- A step that goes on after another one, unless that fails or ends the command. -/
theorem runWith_bind (act : CommandAct α) (next : α → CommandAct β) (s : Session) (o : Outside) :
    (act >>= next).runWith s o =
      match act.runWith s o with
      | (.ok (.ok a), s', o') => (next a).runWith s' o'
      | (.ok (.error status), s', o') => (.ok (.error status), s', o')
      | (.error e, s', o') => (.error e, s', o') := by
  rw [runWith, ExceptT.run_bind, Act.runWith_bind, runWith]
  rcases Act.runWith (ExceptT.run act) s o with ⟨_ | _ | _, s', o'⟩ <;> rfl

theorem runWith_bind_ok {act : CommandAct α} {s s' : Session} {o o' : Outside} {a : α}
    (h : act.runWith s o = (.ok (.ok a), s', o')) (next : α → CommandAct β) :
    (act >>= next).runWith s o = (next a).runWith s' o' := by
  rw [runWith_bind, h]

@[simp] theorem runWith_pure (a : α) (s : Session) (o : Outside) :
    (pure a : CommandAct α).runWith s o = (.ok (.ok a), s, o) := rfl

@[simp] theorem runWith_quit (s : Session) (o : Outside) :
    (quit : CommandAct α).runWith s o = (.ok (.error 1), s, o) := rfl

theorem runWith_ofAct (act : Act Session α) (s : Session) (o : Outside) :
    (ofAct act).runWith s o = ((act.runWith s o).1.map .ok, (act.runWith s o).2) :=
  Act.runWith_map _ act s o

theorem runWith_ofOutcome (x : Outcome α) (s : Session) (o : Outside) :
    (ofAct (Act.ofOutcome x)).runWith s o = (x.map .ok, s, o) := by
  rw [runWith_ofAct, Act.runWith_ofOutcome]

/-! ### What appears on the screen -/

theorem rendered_of_render {markup text : String} (h : Markup.render markup = .ok text) :
    rendered markup = .ok text := by
  rw [rendered, h]

theorem rendered_escape (s : String) : rendered (Markup.escape s) = .ok (Markup.onScreen s) :=
  rendered_of_render (Markup.render_escape s)

theorem runWith_say {markup text : String} (h : Markup.render markup = .ok text) (s : Session)
    (o : Outside) : (say markup).runWith s o = (.ok (.ok ()), s.show [.line text], o) := by
  rw [say, runWith_ofAct, Act.runWith_bind, Act.runWith_ofOutcome, rendered_of_render h]
  rfl

theorem runWith_showTable {rows cells : List (List String)}
    (h : rows.mapM (fun row => row.mapM rendered) = .ok cells) (title : String)
    (columns : List String) (s : Session) (o : Outside) :
    (showTable title columns rows).runWith s o =
      (.ok (.ok ()), s.show [.table title columns cells], o) := by
  rw [showTable, runWith_ofAct, Act.runWith_bind, Act.runWith_ofOutcome, h]
  rfl

end CommandAct

end DealWatch
