import Storefront.Proofs.Results
import Storefront.Proofs.Storage.Charted
import Storefront.Settings.Load
/-!
# Settings — the file that is found

The settings are looked for from the root, while a command writes them to a
path from the current directory. On a charted disk both are one file
(`fileLayerAt_of_readText`), so what was written is what is loaded: the
written form of the built-in settings is loaded as these
(`load_of_readText`), and so is a file that is not there (`load_of_absent`).
-/

namespace Storefront

namespace Settings

variable {d : Disk} {path text : String} {env : Environment}

/-- **The file that a path leads to is the one that is loaded.** -/
theorem fileLayerAt_of_readText (hd : d.Charted) (h : d.readText path = .ok text) :
    fileLayerAt d path = fileLayer (.text text) := by
  -- the path itself leads to a file, so the one with a suffix is not looked for
  obtain ⟨p, hlocate⟩ := Disk.exists_of_readText h
  have hwhole : d.locate (Path.join ("/" ++ "/".intercalate d.current) path) =
      .ok (.file p (.text text)) := by
    rw [hd.locate_join (Disk.ne_empty_of_locate hlocate), hlocate]
  have hfile : file? d path = some (Path.join ("/" ++ "/".intercalate d.current) path) := by
    rw [file?, Disk.isFile, hwhole]
    rfl
  rw [fileLayerAt, hfile, Option.bind_some, Disk.read, hwhole]
  rfl

/-- The layer of the file is all that loading takes from the disk, and
without a layer above it, all that it takes. -/
theorem load_of_fileLayerAt {layer : List (String × Setting)} (hlayer : env.layer = [])
    (h : fileLayerAt d path = .ok layer) :
    load env d path = ofEntries (Setting.putAll layer (toSetting {})).entries := by
  rw [load, h, hlayer]
  rfl

/-- **Without a file the settings are the built-in ones.** -/
theorem load_of_absent (hlayer : env.layer = []) (h : file? d path = none) :
    load env d path = .ok {} := by
  have hnothing : fileLayerAt d path = .ok [] := by rw [fileLayerAt, h, Option.bind_none]
  rw [load_of_fileLayerAt hlayer hnothing]
  decide +kernel

/-- **The written form of the built-in settings is loaded as these.** -/
theorem load_of_readText (hlayer : env.layer = []) (hd : d.Charted)
    (h : d.readText path = .ok (Settings.text {})) : load env d path = .ok {} := by
  have hwritten : (fileLayer (.text (Settings.text {})) >>= fun layer =>
      ofEntries (Setting.putAll layer (toSetting {})).entries) = .ok {} := by decide +kernel
  obtain ⟨layer, hfile, hentries⟩ := bind_eq_ok_iff.1 hwritten
  rw [load_of_fileLayerAt hlayer ((fileLayerAt_of_readText hd h).trans hfile), hentries]

end Settings

end Storefront
