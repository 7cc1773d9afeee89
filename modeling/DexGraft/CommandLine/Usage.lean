/-!
What the program says about its arguments.
-/
namespace DexGraft.CommandLine

def usageLines : List String := [
  "usage: apksurgeon [-h] [-v] [--env ENV] COMMAND ...",
  "",
  "Patch one smali method inside an APK and re-sign it",
  "",
  "  patch APK -o OUTPUT    find the method, patch it, rebuild and sign the archive",
  "  dexes APK              list bytecode images in the order in which they are tried",
  "  inspect APK            show how the entries of the archive lie",
  "  verify                 check the external tools",
  "",
  "options of patch:",
  "  -o, --output OUTPUT    where the signed archive goes",
  "  --spec SPEC            JSON file: targetClass, targetSignature, replacementBody",
  "  --keystore KEYSTORE    PKCS#12 keystore",
  "  --ks-pass PASSWORD     its password",
  "  --alias ALIAS          the name that its entry has to have",
  "  --key KEY              private key (PEM or PKCS#8 DER)",
  "  --cert CERT            PEM certificate chain",
  "  --key-pass PASSWORD    password for --key",
  "  --signer-name NAME     name of the signer",
  "  --min-sdk LEVEL        lowest API level to sign for",
  "  --keep-unsigned        keep <output>.unsigned.apk if signing fails"]

def usageText : String := String.join (usageLines.map (· ++ "\n"))

end DexGraft.CommandLine
