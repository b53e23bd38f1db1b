import CorpusForge.Disk
import CorpusForge.History.Ledger
import CorpusForge.Repository

/-!
# Sites

A site is a disk and a ledger: repositories are made on the disk, and the ledger keeps the calls
that would make their histories.
-/

namespace CorpusForge

/-- A disk with a version-control backend. -/
structure Site where
  disk : Disk
  ledger : Ledger := {}

/-- The host of a site. -/
def Site.host : Host Site where
  makeDirs path site :=
    let (result, disk) := site.disk.makeDirs (Path.segments path) path
    (result, { site with disk })
  writeFile path text site :=
    let (result, disk) := site.disk.writeFile (Path.segments path) path text
    (result, { site with disk })
  call path c site :=
    let (result, ledger) := site.ledger.call path c
    (result, { site with ledger })

end CorpusForge
