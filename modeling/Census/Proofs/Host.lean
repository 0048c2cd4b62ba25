/-
Surroundings that act on a tree of files.

* `Host.Keeps`, `Preserves`, `Gives`, `Reads`, `Changes`: what an action does to the files and what
  it gives;
* `Host.ActsOn`: the operations of some surroundings are those on the files, in whatever order a
  directory lists them, at whatever time and with whatever number of processors;
* `actsOn_onTree`, `ActsOn.within`, `ActsOn.logging`: surroundings that do so.
-/
import Mathlib.Data.List.Basic
import Census.CommandLine.Run

namespace Census.Host

variable {σ α β : Type} {files : σ → FileTree}

/-! ### Actions -/

/-- An action leaves the files as they are. -/
def Keeps (files : σ → FileTree) (x : StateM σ α) : Prop :=
  ∀ s, files (x s).2 = files s

/-- What holds of the files before an action holds of them after it. -/
def Preserves (files : σ → FileTree) (P : FileTree → Prop) (x : StateM σ α) : Prop :=
  ∀ s, P (files s) → P (files (x s).2)

/-- Where something holds of the files, an action gives a value, and it goes on to hold. -/
def Gives (files : σ → FileTree) (P : FileTree → Prop) (x : StateM σ α) (a : α) : Prop :=
  ∀ s, P (files s) → (x s).1 = a ∧ P (files (x s).2)

/-- An action gives what can be read off the files, and leaves them as they are. -/
def Reads (files : σ → FileTree) (x : StateM σ α) (value : FileTree → α) : Prop :=
  ∀ s, (x s).1 = value (files s) ∧ files (x s).2 = files s

/-- An action changes the files as an operation on trees does; where that is refused, so is the
action. -/
def Changes (files : σ → FileTree) (x : StateM σ (Except FileError Unit))
    (change : FileTree → Except FileError FileTree) : Prop :=
  ∀ s, ((x s).1, files (x s).2) = changeTree change (files s)

variable {P : FileTree → Prop} {x : StateM σ α} {f : α → StateM σ β}

lemma bind_apply (x : StateM σ α) (f : α → StateM σ β) (s : σ) :
    (x >>= f) s = f (x s).1 (x s).2 :=
  rfl

lemma Keeps.preserves (h : Keeps files x) : Preserves files P x := by
  intro s hs
  rw [h s]
  exact hs

lemma preserves_pure (a : α) : Preserves files P (pure a : StateM σ α) :=
  fun _ hs => hs

lemma Preserves.bind (h : Preserves files P x) (hf : ∀ a, Preserves files P (f a)) :
    Preserves files P (x >>= f) :=
  fun s hs => hf _ _ (h s hs)

lemma gives_pure (a : α) : Gives files P (pure a : StateM σ α) a :=
  fun _ hs => ⟨rfl, hs⟩

/-- One action after another, which may depend on what the first one gives. -/
lemma Gives.bind {a : α} {b : β} (h : Gives files P x a) (hf : Gives files P (f a) b) :
    Gives files P (x >>= f) b := by
  intro s hs
  obtain ⟨rfl, hnext⟩ := h s hs
  exact hf _ hnext

/-- What comes after an action whose value makes no difference. -/
lemma Preserves.gives_bind {b : β} (h : Preserves files P x) (hf : ∀ a, Gives files P (f a) b) :
    Gives files P (x >>= f) b :=
  fun s hs => hf _ _ (h s hs)

lemma Reads.preserves {value : FileTree → α} (h : Reads files x value) : Preserves files P x := by
  intro s hs
  rw [(h s).2]
  exact hs

/-- What is read off the files where something holds of them. -/
lemma Reads.gives {value : FileTree → α} {a : α} (h : Reads files x value)
    (hP : ∀ t, P t → value t = a) : Gives files P x a := by
  intro s hs
  obtain ⟨hvalue, hfiles⟩ := h s
  exact ⟨hvalue.trans (hP _ hs), hfiles.symm ▸ hs⟩

lemma Changes.ok {x : StateM σ (Except FileError Unit)}
    {change : FileTree → Except FileError FileTree} (h : Changes files x change) {s : σ}
    {t : FileTree} (ht : change (files s) = .ok t) : (x s).1 = .ok () ∧ files (x s).2 = t := by
  have hs := h s
  rw [changeTree, ht] at hs
  exact Prod.mk.inj hs

lemma Changes.error {x : StateM σ (Except FileError Unit)}
    {change : FileTree → Except FileError FileTree} (h : Changes files x change) {s : σ}
    {e : FileError} (he : change (files s) = .error e) :
    (x s).1 = .error e ∧ files (x s).2 = files s := by
  have hs := h s
  rw [changeTree, he] at hs
  exact Prod.mk.inj hs

lemma preserves_logAll {h : Host (StateM σ)} (hlog : ∀ e, Preserves files P (h.log e))
    (es : List Log.Event) : Preserves files P (h.logAll es) := by
  induction es with
  | nil => exact preserves_pure _
  | cons e es ih => exact (hlog e).bind fun _ => ih

/-! ### Surroundings -/

/-- The operations are those on the files, apart from the order of names; neither clocks nor remarks
change a file.  Nothing is said of the log. -/
structure ActsOn (h : Host (StateM σ)) (files : σ → FileTree) (here : FileTree.Location) :
    Prop where
  isDirectory : ∀ path, Reads files (h.isDirectory path) fun t => t.isDirectory here path
  fileNames : ∀ path s, (h.fileNames path s).1.Perm ((files s).fileNames here path) ∧
    files (h.fileNames path s).2 = files s
  read : ∀ path, Reads files (h.read path) fun t => t.read? here path
  makeDirectories : ∀ path, Changes files (h.makeDirectories path) fun t =>
    t.makeDirectories here path
  write : ∀ path text, Changes files (h.write path text) fun t => t.write here path text
  append : ∀ path text, Changes files (h.append path text) fun t => t.append here path text
  now : Keeps files h.now
  clock : Keeps files h.clock
  remark : ∀ text, Keeps files (h.remark text)

/-- The operations on a tree act on it. -/
lemma actsOn_onTree (now : String) (here : FileTree.Location) :
    (onTree now here).ActsOn id here where
  isDirectory _ _ := ⟨rfl, rfl⟩
  fileNames _ _ := ⟨List.Perm.refl _, rfl⟩
  read _ _ := ⟨rfl, rfl⟩
  makeDirectories _ _ := rfl
  write _ _ _ := rfl
  append _ _ _ := rfl
  now _ := rfl
  clock _ := rfl
  remark _ _ := rfl

namespace ActsOn

variable {h : Host (StateM σ)} {here : FileTree.Location}

lemma within (hh : h.ActsOn files here) (span : Log.Span) : (h.within span).ActsOn files here :=
  { hh with }

lemma logging (hh : h.ActsOn files here) (s : CommandLine.Settings) :
    (h.logging s).ActsOn files here :=
  { hh with }

end ActsOn

end Census.Host
