import UsbVideo.Proofs.Engine.Tasks

/-!
# Who holds which claim

The registry is a list of keys and does not say whose they are. `ClaimRegistry.Records` compares it with
a list of the keys somebody has: both have the same keys, each once. Whoever acquires a key had to find
it free, and whoever releases one takes no other's away.

A task has the claim on its endpoint until it ends; `World.liveClaims` are those of a list of tasks.
-/

namespace UsbVideo

namespace ClaimRegistry

/-- The registry holds these keys, each once. -/
structure Records (r : ClaimRegistry) (keys : List ClaimKey) : Prop where
  perm : r.held.Perm keys
  nodup : r.held.Nodup

namespace Records

variable {r r' : ClaimRegistry} {key : ClaimKey} {keys keys' : List ClaimKey}

theorem congr (h : r.Records keys) (hperm : keys.Perm keys') : r.Records keys' :=
  ⟨h.perm.trans hperm, h.nodup⟩

theorem acquire (h : r.Records keys) (hr : r.acquire key = some r') : r'.Records (key :: keys) := by
  unfold ClaimRegistry.acquire at hr
  split at hr
  · cases hr
  · next hfree =>
    cases hr
    exact ⟨h.perm.cons key, List.nodup_cons.mpr ⟨hfree, h.nodup⟩⟩

theorem release (h : r.Records (key :: keys)) : (r.release key).Records keys := by
  have herase : (r.release key).held = r.held.erase key := by
    rw [h.nodup.erase_eq_filter, ClaimRegistry.release]
    exact List.filter_congr fun other _ => by simp [bne, beq_eq_decide]
  constructor
  · rw [herase]
    simpa using h.perm.erase key
  · rw [herase]
    exact h.nodup.erase key

end Records

end ClaimRegistry

namespace World

/-- The claims of the tasks that go on. -/
def liveClaims (tasks : List RunningTask) : List ClaimKey :=
  (tasks.filter (!·.task.isEnded)).map (·.claim)

theorem mem_liveClaims {tasks : List RunningTask} {key : ClaimKey} :
    key ∈ liveClaims tasks ↔ ∃ t ∈ tasks, t.task.isEnded = false ∧ t.claim = key := by
  simp [liveClaims, and_assoc]

/-- Who keeps what they are keeps their claims. -/
theorem liveClaims_map {f : RunningTask → RunningTask} (h : RunningTask.Keeps f)
    (tasks : List RunningTask) : liveClaims (tasks.map f) = liveClaims tasks := by
  have hended : ((fun t : RunningTask => !t.task.isEnded) ∘ f) = fun t => !t.task.isEnded :=
    funext fun t => congrArg not (h t).isEnded
  have hclaim : ((fun t : RunningTask => t.claim) ∘ f) = fun t => t.claim := funext fun t => (h t).claim
  rw [liveClaims, List.filter_map, List.map_map, hended, hclaim, liveClaims]

/-- A task that has just begun has its claim. -/
theorem liveClaims_append {t : RunningTask} (h : t.task.isEnded = false) (tasks : List RunningTask) :
    (liveClaims (tasks ++ [t])).Perm (t.claim :: liveClaims tasks) := by
  rw [liveClaims, List.filter_append, List.map_append, List.filter_singleton, h]
  exact List.perm_append_singleton _ _

/-- The claim of a task that changes is given up if the task has ended, and kept if not. -/
theorem liveClaims_changed {tasks : List RunningTask} (distinct : Distinct tasks) {t : RunningTask}
    (ht : t ∈ tasks) (hgoes : t.task.isEnded = false) (task : DispatchTask) :
    (liveClaims tasks).Perm
      (if task.isEnded then t.claim :: liveClaims (changed tasks t task)
        else liveClaims (changed tasks t task)) := by
  have hbefore : (liveClaims tasks).Perm
      (t.claim :: liveClaims (tasks.filter (·.mailbox ≠ t.mailbox))) := by
    have hperm := ((perm_others distinct ht).filter (!·.task.isEnded)).map (·.claim)
    rwa [List.filter_cons_of_pos (by rw [hgoes]; rfl)] at hperm
  by_cases hended : task.isEnded = true
  · have hafter : liveClaims (changed tasks t task) =
        liveClaims (tasks.filter (·.mailbox ≠ t.mailbox)) := by
      rw [changed, liveClaims, List.filter_append, List.filter_singleton, hended, Bool.not_true]
      simp [liveClaims]
    rw [if_pos hended, hafter]
    exact hbefore
  · rw [if_neg hended]
    have hlive : ({ t with task } : RunningTask).task.isEnded = false := by simpa using hended
    exact hbefore.trans (liveClaims_append hlive _).symm

end World

namespace ClaimRegistry.Records

variable {r r' : ClaimRegistry} {tasks : List RunningTask} {t : RunningTask} {rest : List ClaimKey}

/-- A task begins with a key that was free. -/
theorem launched (h : r.Records (World.liveClaims tasks ++ rest)) (goes : t.task.isEnded = false)
    (acquired : r.acquire t.claim = some r') :
    r'.Records (World.liveClaims (tasks ++ [t]) ++ rest) :=
  (h.acquire acquired).congr ((World.liveClaims_append goes tasks).symm.append_right rest)

/-- A task that ends gives up its claim, any other keeps it. -/
theorem stepped (h : r.Records (World.liveClaims tasks ++ rest)) (distinct : World.Distinct tasks)
    (ht : t ∈ tasks) (goes : t.task.isEnded = false) (task : DispatchTask) :
    (if task.isEnded && !t.task.isEnded then r.release t.claim else r).Records
      (World.liveClaims (World.changed tasks t task) ++ rest) := by
  have hclaims := World.liveClaims_changed distinct ht goes task
  by_cases hended : task.isEnded = true
  · simp only [hended, goes, Bool.not_false, Bool.and_self, if_true] at hclaims ⊢
    exact (h.congr (hclaims.append_right rest)).release
  · simp only [hended, Bool.false_and, if_neg Bool.false_ne_true] at hclaims ⊢
    exact h.congr (hclaims.append_right rest)

end ClaimRegistry.Records

end UsbVideo
