import Mathlib.Data.List.Nodup
import ModuleGraph.Flow.Walk
import ModuleGraph.Proofs.Flow.Reachability

/-!
# Progress of the depth-first walk

What the walk has come to so far, and how each of its moves adds to that.

## Main definitions

- `entered` — the identifiers that the walk has come to, in the order in which it leaves them
- `Frame.examined` — the dependencies that have been looked at
- `Progress` — the path is a path of dependencies, and nothing looked at is missing
- `Progress.root`, `Progress.finish`, `Progress.pass`, `Progress.enter` — the moves keep it

## Design notes

`entered` lists the path outside in and then what is finished, latest first. Finishing the innermost
identifier leaves this list as it is, and entering one inserts it in the middle, so whatever stands
in the list in some order stands there in the same order at the end.
-/

namespace ModuleGraph

variable {L : Type}

/-- The identifiers that the walk has come to, the one to be left last in front. -/
def entered (path : List (Frame L)) (finished : List L) : List L :=
  (path.map (·.id)).reverse ++ finished

theorem entered_finish (frame : Frame L) (path : List (Frame L)) (finished : List L) :
    entered (frame :: path) finished = entered path (frame.id :: finished) := by
  simp [entered]

theorem entered_push_perm (frame : Frame L) (path : List (Frame L)) (finished : List L) :
    (entered (frame :: path) finished).Perm (frame.id :: entered path finished) := by
  rw [entered_finish]
  exact List.perm_middle

theorem sublist_entered_push (frame : Frame L) (path : List (Frame L)) (finished : List L) :
    (entered path finished).Sublist (entered (frame :: path) finished) := by
  rw [entered_finish]
  exact (List.Sublist.refl _).append (List.sublist_cons_self _ _)

theorem mem_entered_push {frame : Frame L} {path : List (Frame L)} {finished : List L} {id : L} :
    id ∈ entered (frame :: path) finished ↔ id = frame.id ∨ id ∈ entered path finished := by
  rw [(entered_push_perm frame path finished).mem_iff, List.mem_cons]

variable [BEq L]

/-- The dependencies of the identifier that have been looked at. -/
def Frame.examined (table : Dependencies L) (frame : Frame L) : List L :=
  (table.of frame.id).take ((table.of frame.id).length - frame.pending.length)

section Examined

variable {table : Dependencies L}

theorem Frame.examined_of_append {frame : Frame L} {front : List L}
    (h : front ++ frame.pending = table.of frame.id) : frame.examined table = front := by
  simp [Frame.examined, ← h]

theorem Frame.examined_opened (id : L) : (⟨id, table.of id⟩ : Frame L).examined table = [] :=
  Frame.examined_of_append rfl

theorem Frame.examined_all (id : L) : (⟨id, []⟩ : Frame L).examined table = table.of id :=
  Frame.examined_of_append (List.append_nil _)

theorem Frame.examined_next {id dependency : L} {pending : List L}
    (h : dependency :: pending <:+ table.of id) :
    (⟨id, pending⟩ : Frame L).examined table =
      (⟨id, dependency :: pending⟩ : Frame L).examined table ++ [dependency] := by
  obtain ⟨front, hfront⟩ := h
  have hbefore : (⟨id, dependency :: pending⟩ : Frame L).examined table = front :=
    Frame.examined_of_append hfront
  rw [hbefore]
  apply Frame.examined_of_append
  rw [List.append_assoc]
  exact hfront

end Examined

/-- **Progress of the walk**: what it has come to is reachable and distinct, the path is a path of
dependencies, and whatever has been looked at has been come to. -/
structure Progress (table : Dependencies L) (roots : List L) (path : List (Frame L))
    (finished : List L) : Prop where
  nodup : (entered path finished).Nodup
  reachable : ∀ id ∈ entered path finished, table.ReachableFrom roots id
  linked : (path.map (·.id)).IsChain fun inner outer => table.Direct outer inner
  pending : ∀ frame ∈ path, frame.pending <:+ table.of frame.id
  examined : ∀ frame ∈ path, ∀ id ∈ frame.examined table, id ∈ entered path finished
  settled : ∀ id ∈ finished, ∀ dependency ∈ table.of id, dependency ∈ entered path finished

namespace Progress

variable {table : Dependencies L} {roots : List L} {path : List (Frame L)} {finished : List L}
variable {id dependency : L} {pending : List L}

theorem start : Progress table roots [] [] := by
  constructor <;> simp [entered]

/-- Taking up a root that has not been come to. -/
theorem root (h : Progress table roots [] finished) (hroot : id ∈ roots) (hnew : id ∉ finished) :
    Progress table roots [⟨id, table.of id⟩] finished where
  nodup := List.nodup_cons.2 ⟨hnew, h.nodup⟩
  reachable := by
    intro other hother
    rcases mem_entered_push.1 hother with rfl | hother
    · exact .root hroot
    · exact h.reachable other hother
  linked := .singleton _
  pending := by simp
  examined := by simp [Frame.examined_opened]
  settled := fun other hother dep hdep =>
    mem_entered_push.2 (.inr (h.settled other hother dep hdep))

/-- Leaving an identifier whose dependencies have all been looked at. -/
theorem finish (h : Progress table roots (⟨id, []⟩ :: path) finished) :
    Progress table roots path (id :: finished) where
  nodup := entered_finish ⟨id, []⟩ path finished ▸ h.nodup
  reachable := entered_finish ⟨id, []⟩ path finished ▸ h.reachable
  linked := h.linked.tail
  pending := fun frame hframe => h.pending frame (List.mem_cons_of_mem _ hframe)
  examined := by
    rw [← entered_finish ⟨id, []⟩]
    exact fun frame hframe => h.examined frame (List.mem_cons_of_mem _ hframe)
  settled := by
    rw [← entered_finish ⟨id, []⟩]
    intro other hother dep hdep
    rcases List.mem_cons.1 hother with rfl | hother
    · refine h.examined ⟨other, []⟩ List.mem_cons_self dep ?_
      rwa [Frame.examined_all]
    · exact h.settled other hother dep hdep

/-- The innermost frame, before its next dependency is looked at. -/
theorem next (h : Progress table roots (⟨id, dependency :: pending⟩ :: path) finished) :
    dependency :: pending <:+ table.of id :=
  h.pending _ List.mem_cons_self

theorem direct (h : Progress table roots (⟨id, dependency :: pending⟩ :: path) finished) :
    table.Direct id dependency :=
  h.next.subset List.mem_cons_self

/-- Looking at a dependency that has been come to before. -/
theorem pass (h : Progress table roots (⟨id, dependency :: pending⟩ :: path) finished)
    (hold : dependency ∈ entered (⟨id, dependency :: pending⟩ :: path) finished) :
    Progress table roots (⟨id, pending⟩ :: path) finished where
  nodup := h.nodup
  reachable := h.reachable
  linked := h.linked
  pending := by
    intro frame hframe
    rcases List.mem_cons.1 hframe with rfl | hframe
    · exact (List.suffix_cons _ _).trans h.next
    · exact h.pending frame (List.mem_cons_of_mem _ hframe)
  examined := by
    intro frame hframe dep hdep
    rcases List.mem_cons.1 hframe with rfl | hframe
    · rw [Frame.examined_next h.next] at hdep
      rcases List.mem_append.1 hdep with hdep | hdep
      · exact h.examined _ List.mem_cons_self dep hdep
      · exact List.mem_singleton.1 hdep ▸ hold
    · exact h.examined frame (List.mem_cons_of_mem _ hframe) dep hdep
  settled := h.settled

/-- Entering a dependency that has not been come to. -/
theorem enter (h : Progress table roots (⟨id, dependency :: pending⟩ :: path) finished)
    (hnew : dependency ∉ entered (⟨id, dependency :: pending⟩ :: path) finished) :
    Progress table roots (⟨dependency, table.of dependency⟩ :: ⟨id, pending⟩ :: path) finished where
  nodup := (entered_push_perm _ _ _).nodup_iff.2 (List.nodup_cons.2 ⟨hnew, h.nodup⟩)
  reachable := by
    intro other hother
    rcases mem_entered_push.1 hother with rfl | hother
    · exact (h.reachable id (mem_entered_push.2 (.inl rfl))).step h.direct
    · exact h.reachable other hother
  linked := .cons_cons h.direct h.linked
  pending := by
    intro frame hframe
    rcases List.mem_cons.1 hframe with rfl | hframe
    · exact List.suffix_refl _
    rcases List.mem_cons.1 hframe with rfl | hframe
    · exact (List.suffix_cons _ _).trans h.next
    · exact h.pending frame (List.mem_cons_of_mem _ hframe)
  examined := by
    intro frame hframe dep hdep
    rw [mem_entered_push]
    -- the frame just opened has looked at nothing; the one around it has looked at one more
    rcases List.mem_cons.1 hframe with rfl | hframe
    · rw [Frame.examined_opened] at hdep
      exact absurd hdep List.not_mem_nil
    rcases List.mem_cons.1 hframe with rfl | hframe
    · rw [Frame.examined_next h.next] at hdep
      rcases List.mem_append.1 hdep with hdep | hdep
      · exact .inr (h.examined _ List.mem_cons_self dep hdep)
      · exact .inl (List.mem_singleton.1 hdep)
    · exact .inr (h.examined frame (List.mem_cons_of_mem _ hframe) dep hdep)
  settled := fun other hother dep hdep =>
    mem_entered_push.2 (.inr (h.settled other hother dep hdep))

end Progress

end ModuleGraph
