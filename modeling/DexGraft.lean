import DexGraft.Main
import DexGraft.Proofs.Apk.Alignment
import DexGraft.Proofs.Apk.Chain
import DexGraft.Proofs.Apk.Defects
import DexGraft.Proofs.Apk.Metadata
import DexGraft.Proofs.Apk.NameRules
import DexGraft.Proofs.Apk.Numbered
import DexGraft.Proofs.Apk.Recovery
import DexGraft.Proofs.Apk.Repeated
import DexGraft.Proofs.Apk.Selection
import DexGraft.Proofs.Apk.Signatures
import DexGraft.Proofs.Apk.Successor
import DexGraft.Proofs.Search.InTree
import DexGraft.Proofs.Search.Isolated
import DexGraft.Proofs.Search.Outcome
import DexGraft.Proofs.Search.Replay
import DexGraft.Proofs.Search.Rerun
import DexGraft.Proofs.Search.Run
import DexGraft.Proofs.Search.Source
import DexGraft.Proofs.Smali.Again
import DexGraft.Proofs.Smali.NewLines
import DexGraft.Proofs.Smali.NormalForm
import DexGraft.Proofs.Smali.Spelling
import DexGraft.Proofs.Smali.Stroke
import DexGraft.Proofs.Tool.Artefact
import DexGraft.Proofs.Tool.Newest
import DexGraft.Zip.LooseStamp
