import ModHttp3.Lib.History
import ModHttp3.Session.Binding

/-!
# One stream object for a stream

`track_stream` looks for the id of a new stream in the hash, where a reclaimed stream is no longer
found, and gives the new handle to the stream it finds. QUIC never uses an id twice (`IdLaw`), so
neither matters: a stream has at most one object, and this object never gets another handle
(`Sole`). An object that has a handle is in the hash (`Listed`). For all streams at once the law is
that no id occurs twice among those handed out (`UniqueIds`).
-/

namespace ModHttp3.H3
open ModHttp3.Lib ModHttp3.Lib.Script

/-- QUIC hands out the stream `sid` once, with the handle `h`. -/
def IdLaw (h : Handle) (sid : Int) (_ : List Entry) : Entry → Prop
  | .got h' sid' => h' = h ↔ sid' = sid
  | _ => True

instance IdLaw.decidable {h : Handle} {sid : Int} {pre : List Entry} :
    ∀ e, Decidable (IdLaw h sid pre e)
  | .got h' sid' => inferInstanceAs (Decidable (h' = h ↔ sid' = sid))
  | .op _ => .isTrue trivial
  | .call _ _ _ => .isTrue trivial
  | .processed _ _ => .isTrue trivial

/-- The stream that an entry hands out. -/
def Entry.handedOut : Entry → Option (Handle × Int)
  | .got h sid => some (h, sid)
  | _ => none

/-- The streams that QUIC has handed out, in order. -/
def handedOut (log : List Entry) : List (Handle × Int) := log.filterMap Entry.handedOut

/-- QUIC has handed out no id twice. -/
def UniqueIds (log : List Entry) : Prop := ((handedOut log).map Prod.snd).Nodup

instance UniqueIds.decidable {log : List Entry} : Decidable (UniqueIds log) :=
  inferInstanceAs (Decidable ((handedOut log).map Prod.snd).Nodup)

/-- The stream `sid` has at most one object, and no local variable has its handle `h` any more. -/
structure Sole (h : Handle) (sid : Int) (s : Session) : Prop where
  unique : ∀ r r', r < s.next → r' < s.next → (s.objs r).streamId = sid →
    (s.objs r').streamId = sid → r = r'
  taken : ∀ r < s.next, (s.objs r).streamId = sid → h ∉ s.held ∧ h < s.handles

/-- The objects with handles are in the hash. -/
def Listed (s : Session) : Prop := ∀ r, (s.objs r).qstream ≠ none → r ∈ s.streams

section
variable {s t : Session} {r : Ref} {h h' : Handle} {sid : Int}

/-- The handle that was handed out for an id, and the id of a handle. -/
lemma IdLaw.got {sid' : Int} (ids : Each (IdLaw h sid) s.log) (mem : .got h' sid' ∈ s.log) :
    h' = h ↔ sid' = sid := by
  obtain ⟨_, _, _, law⟩ := ids.of_mem mem
  exact law

/-- The objects of the stream have no other handle, and the handle is in no other object. -/
lemma IdLaw.handle (ids : Each (IdLaw h sid) s.log) (bound : Bound s)
    (hq : (s.objs r).qstream = some h') :
    h' = h ↔ (s.objs r).streamId = sid :=
  IdLaw.got ids (bound.got r h' hq)

/-- A move adds to the log. -/
lemma Move.extends (m : Move s t) : ∃ es, t.log = s.log ++ es := by
  have called : ∀ (u : Session) (cbs : List Cb), (∃ es, u.log = s.log ++ es) →
      ∃ es, (runCbs u cbs).log = s.log ++ es := by
    rintro u cbs ⟨es, eq⟩
    obtain ⟨es', eq', _⟩ := runCbs_log (s := u) cbs
    exact ⟨es ++ es', by rw [eq', eq, List.append_assoc]⟩
  cases m with
  | acquire | use | freeHeld | popFree | process => exact ⟨_, rfl⟩
  | call cbs rv other => exact called _ cbs ⟨_, rfl⟩
  | feed cbs rv hq => exact called _ cbs ⟨_, List.append_assoc ..⟩
  | feedFin cbs rv hq => exact called _ cbs ⟨_, rfl⟩
  | _ => exact ⟨[], (List.append_nil _).symm⟩

/-- Moves only add to the log. -/
lemma moves_extends (ms : Moves s t) : ∃ es, t.log = s.log ++ es := by
  induction ms with
  | refl => exact ⟨[], (List.append_nil _).symm⟩
  | tail _ m ih =>
    obtain ⟨es, eq⟩ := ih
    obtain ⟨fs, eq'⟩ := m.extends
    exact ⟨es ++ fs, by rw [eq', eq, List.append_assoc]⟩

/-- A new session has handed out nothing. -/
lemma Sole.init (b m : Nat) : Sole h sid (.init b m) := ⟨nofun, nofun⟩

/-- A change that takes no handle into a local variable. -/
lemma Sole.same (hs : Sole h sid s) (next : t.next = s.next) (held : t.held ⊆ s.held)
    (handles : t.handles = s.handles) (ids : ∀ r, (t.objs r).streamId = (s.objs r).streamId) :
    Sole h sid t := by
  refine ⟨?_, ?_⟩
  · intro r r' lt lt' id id'
    rw [next] at lt lt'
    rw [ids] at id id'
    exact hs.unique r r' lt lt' id id'
  · intro r lt id
    rw [next] at lt
    rw [ids] at id
    rw [handles]
    obtain ⟨free, old⟩ := hs.taken r lt id
    exact ⟨fun mem => free (held mem), old⟩

/-- What frames the session keeps the handle with its stream. -/
lemma Sole.frame (hs : Sole h sid s) (frame : s.Frame t) : Sole h sid t :=
  hs.same frame.next (frame.held ▸ List.Subset.refl _) frame.handles
    fun r => (frame.objs r).streamId

/-- A change of an object that keeps its id. -/
lemma Sole.modifyObj (hs : Sole h sid s) {f : H3Stream → H3Stream}
    (id : ∀ x, (f x).streamId = x.streamId) :
    Sole h sid (s.modifyObj r f) :=
  hs.same rfl (List.Subset.refl _) rfl
    (update_rel (P := fun x y => y.streamId = x.streamId) (id _) fun _ => rfl)

/-- No handle is held twice. -/
lemma Owns.held_nodup (owns : Owns s) : s.held.Nodup :=
  (List.nodup_append.mp (List.nodup_append.mp owns.ledger.nodup).1).2.1

/-- The held handles were handed out. -/
lemma Owns.held_lt (owns : Owns s) (mem : h ∈ s.held) : h < s.handles :=
  owns.ledger.lt (List.mem_append_right _ mem)

/-- A new object has the stream for itself: had the stream one already, its handle would be gone. -/
lemma Sole.track (hs : Sole h sid s) (owns : Owns s) (ids : Each (IdLaw h sid) s.log) {sid' : Int}
    (taken : s.taken sid' h') : Sole h sid (s.track sid' h') := by
  have old : ∀ r, r ≠ s.next → (s.track sid' h').objs r = s.objs r :=
    fun r ne => Function.update_of_ne ne _ _
  have new : ((s.track sid' h').objs s.next).streamId = sid' := by
    show (Function.update s.objs s.next (.init sid' (some h')) s.next).streamId = sid'
    rw [Function.update_self]
    rfl
  have older : ∀ r < s.next + 1, r ≠ s.next → r < s.next :=
    fun r lt ne => Nat.lt_of_le_of_ne (Nat.le_of_lt_succ lt) ne
  have handle := IdLaw.got ids taken.2.1
  have first : ∀ r, r ≠ s.next → r < s.next + 1 → ((s.track sid' h').objs r).streamId = sid →
      sid' ≠ sid := by
    intro r ne lt id same
    rw [old r ne] at id
    have held := taken.1
    rw [handle.mpr same] at held
    exact (hs.taken r (older r lt ne) id).1 held
  refine ⟨?_, ?_⟩
  · intro r r' lt lt' id id'
    by_cases eq : r = s.next
    · subst eq
      by_cases eq' : r' = s.next
      · exact eq'.symm
      · exact absurd (new ▸ id) (first r' eq' lt' id')
    · by_cases eq' : r' = s.next
      · subst eq'
        exact absurd (new ▸ id') (first r eq lt id)
      · rw [old r eq] at id
        rw [old r' eq'] at id'
        exact hs.unique r r' (older r lt eq) (older r' lt' eq') id id'
  · intro r lt id
    show h ∉ s.held.erase h' ∧ h < s.handles
    by_cases eq : r = s.next
    · subst eq
      obtain rfl := handle.mpr (new ▸ id)
      exact ⟨owns.held_nodup.not_mem_erase, owns.held_lt taken.1⟩
    · rw [old r eq] at id
      obtain ⟨free, early⟩ := hs.taken r (older r lt eq) id
      exact ⟨fun mem => free (List.mem_of_mem_erase mem), early⟩

/-- The object of the stream never gets another handle. -/
lemma Sole.not_retracked (hs : Sole h sid s) (ids : Each (IdLaw h sid) s.log) (lt : r < s.next)
    (taken : s.taken (s.objs r).streamId h') : (s.objs r).streamId ≠ sid := by
  intro same
  have held := taken.1
  rw [(IdLaw.got ids taken.2.1).mpr same] at held
  exact (hs.taken r lt same).1 held

/-- Another object gets another handle. -/
lemma Sole.retrack (hs : Sole h sid s) (owns : Owns s) (bound : Bound s)
    (ids : Each (IdLaw h sid) s.log) (mem : r ∈ s.streams)
    (taken : s.taken (s.objs r).streamId h') : Sole h sid (s.retrack r h') := by
  have same : ∀ r', ((s.retrack r h').objs r').streamId = (s.objs r').streamId :=
    update_rel (P := fun x y => y.streamId = x.streamId) rfl fun _ => rfl
  have other := hs.not_retracked ids (owns.tracked r mem) taken
  refine ⟨?_, ?_⟩
  · intro r1 r2 lt1 lt2 id1 id2
    rw [same] at id1 id2
    exact hs.unique r1 r2 lt1 lt2 id1 id2
  · intro r1 lt1 id1
    rw [same] at id1
    obtain ⟨free, old⟩ := hs.taken r1 lt1 id1
    refine ⟨fun mem => ?_, old⟩
    rcases List.mem_append.mp mem with mem | mem
    · have hq : (s.objs r).qstream = some h := Option.mem_toList.mp mem
      exact other ((IdLaw.handle ids bound hq).mp rfl)
    · exact free (List.mem_of_mem_erase mem)

/-- Every move keeps this. -/
lemma Sole.move (hs : Sole h sid s) (owns : Owns s) (bound : Bound s)
    (ids : Each (IdLaw h sid) s.log) (m : Move s t) : Sole h sid t := by
  cases m with
  | acquire sid' =>
    refine ⟨hs.unique, ?_⟩
    intro r lt id
    obtain ⟨free, old⟩ := hs.taken r lt id
    refine ⟨?_, Nat.lt_succ_of_lt old⟩
    intro mem
    rcases List.mem_cons.mp mem with eq | mem
    · exact absurd eq old.ne
    · exact free mem
  | freeHeld => exact hs.same rfl List.erase_subset rfl fun _ => rfl
  | track taken => exact hs.track owns ids taken
  | retrack mem taken => exact hs.retrack owns bound ids mem taken
  | @call c cbs rv other =>
    exact (hs.frame (Session.emit_frame (.call c cbs rv))).frame (runCbs_frame cbs)
  | @feed r h data cbs rv hq =>
    have read : Sole _ sid (s.reading r h data cbs rv) :=
      hs.same rfl (List.Subset.refl _) rfl fun _ => rfl
    exact (read.frame (runCbs_frame cbs)).same rfl (List.Subset.refl _) rfl fun _ => rfl
  | @feedFin r h u cbs rv hq =>
    have told :=
      (hs.frame (Session.emit_frame (.call (.readStream (s.objs r).streamId [] true) cbs rv))).frame
      (runCbs_frame cbs)
    unfold Session.feedFin
    apply Sole.modifyObj
    · exact told.same rfl (List.Subset.refl _) rfl fun _ => rfl
    · exact fun _ => rfl
  | writeBlocked r b n =>
    have blocked : Sole h sid (s.modifyObj r fun x => { x with writeBlocked := b }) :=
      hs.modifyObj fun _ => rfl
    exact blocked.same rfl (List.Subset.refl _) rfl fun _ => rfl
  | done | cancel | dispatch | undispatch | workerDone => exact hs.modifyObj fun _ => rfl
  | _ => exact hs.same rfl (List.Subset.refl _) rfl fun _ => rfl

/-- Along every sequence of moves in which QUIC keeps its law. -/
lemma Sole.moves {b m : Nat} (ms : Moves (.init b m) t) (ids : Each (IdLaw h sid) t.log) :
    Sole h sid t := by
  induction ms with
  | refl => exact .init b m
  | tail ms mv ih =>
    obtain ⟨es, log⟩ := mv.extends
    rw [log] at ids
    have owns := (Owns.init b m).moves ms
    have bound := (Bound.init b m).moves (Owns.init b m) ms
    exact (ih ids.before).move owns bound ids.before mv

/-- The handles that were handed out are those in the log. -/
lemma mem_handedOut {log : List Entry} : (h, sid) ∈ handedOut log ↔ .got h sid ∈ log := by
  refine List.mem_filterMap.trans ⟨?_, fun mem => ⟨_, mem, rfl⟩⟩
  rintro ⟨e, mem, eq⟩
  cases e <;> cases eq
  exact mem

/-- Entries that hand out nothing. -/
lemma handedOut_append {log es : List Entry} (nothing : ∀ e ∈ es, e.handedOut = none) :
    handedOut (log ++ es) = handedOut log := by
  rw [handedOut, List.filterMap_append, List.filterMap_eq_nil_iff.mpr nothing, List.append_nil]
  rfl

/-- Callbacks hand out nothing. -/
lemma handedOut_runCbs (s : Session) (cbs : List Cb) :
    handedOut (runCbs s cbs).log = handedOut s.log := by
  obtain ⟨es, log, resets⟩ := runCbs_log (s := s) cbs
  rw [log, handedOut_append]
  intro e mem
  obtain ⟨_, _, rfl⟩ := resets e mem
  rfl

/-- The handles that were handed out are numbered in order. -/
lemma Move.handedOut (m : Move s t)
    (hs : (H3.handedOut s.log).map Prod.fst = List.range s.handles) :
    (H3.handedOut t.log).map Prod.fst = List.range t.handles := by
  have added : ∀ e : Entry, e.handedOut = none →
      H3.handedOut (s.log ++ [e]) = H3.handedOut s.log := by
    intro e nothing
    refine handedOut_append ?_
    rintro _ (_ | ⟨_, ⟨⟩⟩)
    exact nothing
  have called : ∀ (u : Session) (cbs : List Cb), u.handles = s.handles →
    H3.handedOut u.log = H3.handedOut s.log →
      (H3.handedOut (runCbs u cbs).log).map Prod.fst = List.range (runCbs u cbs).handles := by
    intro u cbs handles old
    rw [handedOut_runCbs, old, (runCbs_frame cbs).handles, handles, hs]
  cases m with
  | acquire sid =>
    show (H3.handedOut (s.log ++ [Entry.got s.handles sid])).map Prod.fst =
      List.range (s.handles + 1)
    rw [H3.handedOut, List.filterMap_append, List.map_append, List.range_succ, ← hs]
    rfl
  | use | freeHeld | popFree | process => exact (congrArg _ (added _ rfl)).trans hs
  | call cbs rv other => exact called _ cbs rfl (added _ rfl)
  | feedFin cbs rv hq => exact called _ cbs rfl (added _ rfl)
  | @feed r h data cbs rv hq =>
    refine called (s.reading r h data cbs rv) cbs rfl ?_
    refine (handedOut_append ?_).trans (added (.op (.use (.read (.data data)) h)) rfl)
    rintro _ (_ | ⟨_, ⟨⟩⟩)
    rfl
  | _ => exact hs

/-- The handles are handed out in their order, each once. -/
lemma moves_handedOut {b m : Nat} (ms : Moves (.init b m) t) :
    (handedOut t.log).map Prod.fst = List.range t.handles := by
  induction ms with
  | refl => rfl
  | tail _ mv ih => exact mv.handedOut ih

/-- A handle in the log was handed out. -/
lemma moves_got_lt {b m : Nat} (ms : Moves (.init b m) t) (mem : .got h sid ∈ t.log) :
    h < t.handles := by
  rw [← List.mem_range, ← moves_handedOut ms]
  exact List.mem_map_of_mem (mem_handedOut.mpr mem)

/-- What came first is unique by itself. -/
lemma UniqueIds.before {log log' es : List Entry} (ids : UniqueIds log') (eq : log' = log ++ es) :
    UniqueIds log := by
  rw [UniqueIds, eq, handedOut, List.filterMap_append, List.map_append] at ids
  exact (List.nodup_append.mp ids).1

/-- The law for one stream; a stream that was not handed out keeps it with any handle that was
not. -/
lemma UniqueIds.idLaw {b m : Nat} (ids : UniqueIds t.log) (ms : Moves (.init b m) t) (sid : Int) :
    ∃ h, Each (IdLaw h sid) t.log := by
  have each : ∀ h, (∀ h' sid', .got h' sid' ∈ t.log → (h' = h ↔ sid' = sid)) →
      Each (IdLaw h sid) t.log := by
    intro h law
    rw [← List.nil_append t.log]
    refine Each.append trivial ?_
    intro e mem pre
    cases e with
    | got h' sid' => exact law h' sid' mem
    | op | call | processed => trivial
  by_cases out : ∃ h, .got h sid ∈ t.log
  · obtain ⟨h, mem⟩ := out
    have handles : ((handedOut t.log).map Prod.fst).Nodup := moves_handedOut ms ▸ List.nodup_range
    refine ⟨h, each h fun h' sid' mem' => ⟨?_, ?_⟩⟩
    · intro eq
      exact congrArg Prod.snd (List.inj_on_of_nodup_map handles (mem_handedOut.mpr mem')
        (mem_handedOut.mpr mem) eq)
    · intro eq
      exact congrArg Prod.fst (List.inj_on_of_nodup_map ids (mem_handedOut.mpr mem')
        (mem_handedOut.mpr mem) eq)
  · refine ⟨t.handles, each _ fun h' sid' mem' => ⟨?_, ?_⟩⟩
    · rintro rfl
      exact absurd (moves_got_lt ms mem') (Nat.lt_irrefl _)
    · rintro rfl
      exact absurd ⟨h', mem'⟩ out

/-- No two objects are of one stream. -/
lemma UniqueIds.unique {b m : Nat} (ids : UniqueIds t.log) (ms : Moves (.init b m) t) {r r' : Ref}
    (lt : r < t.next) (lt' : r' < t.next) (same : (t.objs r).streamId = (t.objs r').streamId) :
    r = r' := by
  obtain ⟨h, law⟩ := ids.idLaw ms (t.objs r').streamId
  exact (Sole.moves ms law).unique r r' lt lt' same rfl

/-- A change that gives no handle to an object. -/
lemma Listed.same (hs : Listed s) (streams : t.streams = s.streams)
    (objs : ∀ r, (t.objs r).qstream = (s.objs r).qstream ∨ (t.objs r).qstream = none) :
    Listed t := by
  intro r hq
  rw [streams]
  rcases objs r with eq | eq
  · exact hs r (eq ▸ hq)
  · exact absurd eq hq

/-- A change of an object that keeps its handle. -/
lemma Listed.modifyObj (hs : Listed s) {f : H3Stream → H3Stream}
    (same : ∀ x, (f x).qstream = x.qstream) :
    Listed (s.modifyObj r f) := by
  refine hs.same rfl ?_
  exact update_rel (P := fun x y => y.qstream = x.qstream ∨ y.qstream = none) (.inl (same _))
    fun _ => .inl rfl

/-- A move keeps every handle of an object in the log. -/
lemma Listed.move (hs : Listed s) (m : Move s t) : Listed t := by
  cases m with
  | @track sid h taken =>
    intro r hq
    show r ∈ s.streams ++ [s.next]
    by_cases eq : r = s.next
    · exact List.mem_append_right _ (List.mem_singleton.mpr eq)
    · have old : (s.track sid h).objs r = s.objs r := Function.update_of_ne eq _ _
      exact List.mem_append_left _ (hs r (old ▸ hq))
  | @retrack r' h mem taken =>
    intro r hq
    by_cases eq : r = r'
    · exact eq ▸ mem
    · have old : (s.retrack r' h).objs r = s.objs r := Function.update_of_ne eq _ _
      exact hs r (old ▸ hq)
  | @reclaim r' finished =>
    intro r hq
    refine (List.mem_erase_of_ne ?_).mpr (hs r hq)
    rintro rfl
    simp only [H3Stream.reclaimable, Bool.and_eq_true, Option.isNone_iff_eq_none] at finished
    exact hq finished.1.1.2
  | call cbs rv other =>
    exact hs.same (runCbs_frame cbs).streams fun r => ((runCbs_frame cbs).objs r).qstream
  | @feed r h data cbs rv hq =>
    exact hs.same (runCbs_frame (s := s.reading r h data cbs rv) cbs).streams
      fun r' => (Session.feed_frame data cbs rv r').qstream
  | @feedFin r h u cbs rv hq =>
    have told : Listed (s.told r cbs rv) :=
      hs.same (runCbs_frame cbs).streams fun r' => (told_frame s r cbs rv r').qstream
    have complete :
        Listed ((s.told r cbs rv).modifyObj r fun x => { x with bodyComplete := true }) :=
      told.modifyObj fun _ => rfl
    exact complete.same rfl fun _ => .inl rfl
  | writeBlocked r b n =>
    have blocked : Listed (s.modifyObj r fun x => { x with writeBlocked := b }) :=
      hs.modifyObj fun _ => rfl
    exact blocked.same rfl fun _ => .inl rfl
  | done | cancel | dispatch | undispatch | workerDone => exact hs.modifyObj fun _ => rfl
  | _ => exact hs.same rfl fun _ => .inl rfl

/-- Every handle of an object is in the log. -/
lemma Listed.moves {b m : Nat} (ms : Moves (.init b m) t) : Listed t := by
  induction ms with
  | refl =>
    intro r hq
    exact absurd rfl hq
  | tail _ mv ih => exact ih.move mv

/-- An object that is found is listed under its id. -/
lemma Session.find_some (found : s.find sid = some r) : r ∈ s.streams ∧ (s.objs r).streamId = sid :=
  ⟨List.mem_of_find?_eq_some found, by simpa using List.find?_some found⟩

/-- The object that has the handle of a stream is the one that is found for the stream. -/
lemma Sole.find (hs : Sole h sid s) (owns : Owns s) (listed : Listed s)
    (hq : (s.objs r).qstream = some h) (id : (s.objs r).streamId = sid) : s.find sid = some r := by
  have mem : r ∈ s.streams := listed r (by rw [hq]; nofun)
  cases found : s.find sid with
  | none =>
    refine absurd ?_ (List.find?_eq_none.mp found r mem)
    rw [id]
    exact beq_self_eq_true sid
  | some r' =>
    obtain ⟨mem', id'⟩ := Session.find_some found
    rw [hs.unique r r' (owns.tracked r mem) (owns.tracked r' mem') id id']

end

end ModHttp3.H3
