/-!
# Texts about the command

## Main definitions

* `LoadingCheck.CommandLine.helpText` — what the command does and what it can be given.
* `LoadingCheck.CommandLine.versionText` — its name and version.
-/

namespace LoadingCheck.CommandLine

/-- The name and the version of the command. -/
def versionText : String :=
  "verify-ux 0.1.0\n"

/-- What the command does and what it can be given. -/
def helpText : String :=
  "Verify the Generate configs loading state in the vtrunkd GUI

Usage: verify-ux [OPTIONS]

Options:
      --url <URL>
          Application URL [default: http://localhost:3000]
      --screenshot <SCREENSHOT>
          Screenshot output path [default: verification/ux_verification_refined.png]
      --browser <BROWSER>
          Browser to use [default: chromium] [possible values: chromium, firefox, webkit]
      --headed
          Show the browser window
      --viewport-width <VIEWPORT_WIDTH>
          Viewport width [default: 1280]
      --viewport-height <VIEWPORT_HEIGHT>
          Viewport height [default: 720]
      --ipc-delay-ms <IPC_DELAY_MS>
          Simulated backend latency of the mocked IPC bridge [default: 2000]
      --settle-ms <SETTLE_MS>
          Wait between the click and the class assertion [default: 500]
      --node-path <NODE_PATH>
          Directory containing @playwright/test, exported as NODE_PATH [default: node_modules]
      --strict
          Exit with status 1 when the check fails
  -v, --verbose
          Enable verbose output
  -h, --help
          Print help
  -V, --version
          Print version
"

end LoadingCheck.CommandLine
